import ShopRelay.Text.Lower

/-!
Lower case of lines: a line break keeps the words before it and after it apart, so each line is
lowered on its own. What is in lower case stays as it is.
-/

namespace ShopRelay.Text

namespace Lower

variable {before before' cs : List Char} {c : Char}

theorem meetsCased_cons (c : Char) (cs : List Char) :
    meetsCased (c :: cs) = if isCaseIgnorable c then meetsCased cs else isCased c := by
  unfold meetsCased
  rw [List.dropWhile_cons]
  by_cases h : isCaseIgnorable c = true
  · rw [if_pos h, if_pos h]
  · rw [if_neg h, if_neg h]

/-- A line break is neither cased nor ignored. -/
theorem meetsCased_break (rest : List Char) : meetsCased ('\n' :: rest) = false := by
  have hseen : isCaseIgnorable '\n' = false := by decide +kernel
  have huncased : isCased '\n' = false := by decide +kernel
  rw [meetsCased_cons, hseen, huncased]
  rfl

/-- What follows a line break does not count. -/
theorem meetsCased_line (cs rest : List Char) :
    meetsCased (cs ++ '\n' :: rest) = meetsCased cs := by
  induction cs with
  | nil => exact meetsCased_break rest
  | cons c cs ih => rw [List.cons_append, meetsCased_cons, meetsCased_cons, ih]

/-- Of what stands before a text only its nearest cased character counts. -/
theorem charsAfter_congr (h : meetsCased before = meetsCased before') :
    charsAfter before cs = charsAfter before' cs := by
  induction cs generalizing before before' with
  | nil => rfl
  | cons c cs ih =>
    have hnext : meetsCased (c :: before) = meetsCased (c :: before') := by
      rw [meetsCased_cons, meetsCased_cons, h]
    rw [charsAfter, charsAfter, h, ih hnext]

theorem charsAfter_line (before cs rest : List Char) :
    charsAfter before (cs ++ '\n' :: rest) = charsAfter before cs ++ '\n' :: charsAfter [] rest := by
  induction cs generalizing before with
  | nil =>
    have hbreak : char '\n' = '\n' := by decide +kernel
    have hrest : charsAfter ('\n' :: before) rest = charsAfter [] rest :=
      charsAfter_congr (meetsCased_break before)
    simp [charsAfter, hbreak, hrest]
  | cons c cs ih =>
    rw [List.cons_append, charsAfter, charsAfter, meetsCased_line, ih, List.append_assoc]

/-- A character that is the same in lower case, wherever it stands. -/
structure Settled (c : Char) : Prop where
  ne_sigma : c ≠ 'Σ'
  ne_dotted : c ≠ 'İ'
  char_eq : char c = c

theorem charsAfter_settled (h : ∀ c ∈ cs, Settled c) : charsAfter before cs = cs := by
  induction cs generalizing before with
  | nil => rfl
  | cons c cs ih =>
    have hc : Settled c := h c List.mem_cons_self
    have hrest : charsAfter (c :: before) cs = cs :=
      ih fun d hd => h d (List.mem_cons_of_mem c hd)
    simp [charsAfter, hc.ne_sigma, hc.ne_dotted, hc.char_eq, hrest]

/-- The dotted capital I as a run of its own. -/
def dotted : Run := ⟨0x130, 0x130, 1, 0⟩

/-- The code points that a run has for lower case. -/
def Run.lowered (r : Run) : Run :=
  ⟨(r.first + r.shift).toNat, (r.last + r.shift).toNat, r.step, 0⟩

/-- Two runs without a common code point: one ends before the other begins, or they take turns. -/
def Run.apart (r s : Run) : Bool :=
  r.last.blt s.first || s.last.blt r.first ||
    ((r.step == 2 || r.first == r.last) && s.step == 2 && (r.first + s.first) % 2 == 1)

/-- What is the lower case of something has no other lower case. -/
theorem runs_lowered : runs.all (fun r =>
    0 ≤ r.first + r.shift && (dotted :: runs).all r.lowered.apart) = true := by
  decide +kernel

namespace Run

variable {r s : Run} {n : Nat}

theorem contains_iff :
    r.contains n = true ↔ (r.first ≤ n ∧ n ≤ r.last) ∧ (n - r.first) % r.step = 0 := by
  simp [contains]

theorem contains_lowered (h : r.contains n = true) (hfirst : 0 ≤ r.first + r.shift) :
    r.lowered.contains (n + r.shift).toNat = true := by
  obtain ⟨⟨hle, hlast⟩, hstep⟩ := contains_iff.mp h
  have hsame : (n + r.shift).toNat - (r.first + r.shift).toNat = n - r.first := by omega
  refine contains_iff.mpr ⟨⟨?_, ?_⟩, ?_⟩
  · simp only [lowered]
    omega
  · simp only [lowered]
    omega
  · simp only [lowered, hsame, hstep]

theorem not_contains_of_apart (hapart : r.apart s = true) (h : r.contains n = true) :
    s.contains n = false := by
  obtain ⟨⟨hle, hlast⟩, hstep⟩ := contains_iff.mp h
  rw [Bool.eq_false_iff]
  intro hs
  obtain ⟨⟨hle', hlast'⟩, hstep'⟩ := contains_iff.mp hs
  simp only [apart, Bool.or_eq_true, Bool.and_eq_true, Nat.blt_eq, beq_iff_eq] at hapart
  rcases hapart with (hbefore | hafter) | ⟨⟨htwo | hone, htwo'⟩, hodd⟩
  · omega
  · omega
  · rw [htwo] at hstep
    rw [htwo'] at hstep'
    omega
  · rw [htwo'] at hstep'
    omega

end Run

theorem settled_of_uncontained (h : ∀ r ∈ dotted :: runs, r.contains c.toNat = false) :
    Settled c where
  ne_sigma := by
    rintro rfl
    have hsigma : (runs.any fun r => r.contains 'Σ'.toNat) = true := by decide +kernel
    obtain ⟨r, hr, hcontains⟩ := List.any_eq_true.mp hsigma
    rw [h r (List.mem_cons_of_mem dotted hr)] at hcontains
    cases hcontains
  ne_dotted := by
    rintro rfl
    cases h dotted List.mem_cons_self
  char_eq := by
    have hnone : runs.find? (·.contains c.toNat) = none :=
      List.find?_eq_none.mpr fun r hr => by simp [h r (List.mem_cons_of_mem dotted hr)]
    rw [char, hnone]

theorem settled_char (hsigma : c ≠ 'Σ') (hdotted : c ≠ 'İ') : Settled (char c) := by
  cases hfind : runs.find? (·.contains c.toNat) with
  | none =>
    have hchar : char c = c := by rw [char, hfind]
    rw [hchar]
    exact ⟨hsigma, hdotted, hchar⟩
  | some r =>
    have hr : r ∈ runs := List.mem_of_find?_eq_some hfind
    have hcontains : r.contains c.toNat = true :=
      List.find?_some (p := fun r : Run => r.contains c.toNat) hfind
    have hlowered := List.all_eq_true.mp runs_lowered r hr
    rw [Bool.and_eq_true, decide_eq_true_eq] at hlowered
    obtain ⟨hfirst, hapart⟩ := hlowered
    have hchar : char c = Char.ofNat (c.toNat + r.shift).toNat := by rw [char, hfind]
    rw [hchar]
    by_cases hvalid : (c.toNat + r.shift).toNat.isValidChar
    · have hnumber : (Char.ofNat (c.toNat + r.shift).toNat).toNat = (c.toNat + r.shift).toNat := by
        rw [Char.ofNat, dif_pos hvalid]
        rfl
      refine settled_of_uncontained fun s hs => ?_
      rw [hnumber]
      exact Run.not_contains_of_apart (List.all_eq_true.mp hapart s hs)
        (Run.contains_lowered hcontains hfirst)
    · have hnul : Char.ofNat (c.toNat + r.shift).toNat = '\x00' := by
        rw [Char.ofNat, dif_neg hvalid]
        rfl
      rw [hnul]
      exact ⟨by decide, by decide, by decide +kernel⟩

theorem settled_of_mem_charsAfter (h : c ∈ charsAfter before cs) : Settled c := by
  induction cs generalizing before with
  | nil => cases h
  | cons d cs ih =>
    rw [charsAfter] at h
    rcases List.mem_append.mp h with h | h
    · split at h
      · split at h
        · obtain rfl := List.mem_singleton.mp h
          exact ⟨by decide, by decide, by decide +kernel⟩
        · obtain rfl := List.mem_singleton.mp h
          exact ⟨by decide, by decide, by decide +kernel⟩
      · split at h
        · rcases List.mem_cons.mp h with rfl | h
          · exact ⟨by decide, by decide, by decide +kernel⟩
          · obtain rfl := List.mem_singleton.mp h
            exact ⟨by decide, by decide, by decide +kernel⟩
        · next hsigma hdotted =>
          obtain rfl := List.mem_singleton.mp h
          exact settled_char (by simpa using hsigma) (by simpa using hdotted)
    · exact ih h

end Lower

/-- Each of some lines with a line break after it. -/
def lines (texts : List String) : String := String.join (texts.map (· ++ "\n"))

@[simp] theorem lines_nil : lines [] = "" := rfl

@[simp] theorem lines_cons (text : String) (texts : List String) :
    lines (text :: texts) = text ++ "\n" ++ lines texts := by
  simp [lines]

@[simp] theorem lines_append (texts texts' : List String) :
    lines (texts ++ texts') = lines texts ++ lines texts' := by
  simp [lines]

/-- Each line is lowered on its own. -/
theorem lower_lines (texts : List String) : lower (lines texts) = lines (texts.map lower) := by
  induction texts with
  | nil => rfl
  | cons text texts ih =>
    rw [List.map_cons, lines_cons, lines_cons, ← ih]
    apply String.toList_injective
    simp [lower, Lower.charsAfter_line]

/-- The first sigma ends its word although a word follows on the next line. -/
example : lower "ΟΔΟΣ\nΣΑ" = "οδος\nσα" := by decide +kernel

theorem lower_lower (s : String) : lower (lower s) = lower s := by
  unfold lower
  rw [String.toList_ofList, Lower.charsAfter_settled fun _ => Lower.settled_of_mem_charsAfter]

end ShopRelay.Text
