import ShopRelay.Proofs.Answer.Ids

/-!
Lists of offers are read entry by entry: a list yields what its entries yield on their own, one
after the other, and it is rejected for the first entry that is.
-/

namespace ShopRelay.Answer

open Json
open Number (Binary Scientific)

variable {α β : Type}

/-- A reader of lists for which the entries do not depend on one another. -/
structure EntryByEntry (read : List Value → Read (List α)) : Prop where
  append : ∀ xs ys rs, read (xs ++ ys) = .ok rs ↔
    ∃ firsts lasts, read xs = .ok firsts ∧ read ys = .ok lasts ∧ rs = firsts ++ lasts
  error : ∀ xs e, read xs = .error e ↔ ∃ before x after, xs = before ++ x :: after ∧
    (∃ rs, read before = .ok rs) ∧ read [x] = .error e
  entries : ∀ xs rs, read xs = .ok rs ↔
    ∃ parts, List.Forall₂ (fun x part => read [x] = .ok part) xs parts ∧ rs = parts.flatten

/-- Reads a list of entries of which each yields some offers. -/
def readEach (entry : Value → Read β) (yield : β → List α) (xs : List Value) : Read (List α) := do
  return (← xs.mapM entry).flatMap yield

section
variable {entry : Value → Read β} {yield : β → List α} {x : Value} {xs : List Value}
  {e : AnswerError}

theorem readEach_ok {rs : List α} : readEach entry yield xs = .ok rs ↔
    ∃ bs, xs.mapM entry = .ok bs ∧ rs = bs.flatMap yield := by
  constructor
  · intro h
    obtain ⟨bs, hbs, hrs⟩ := Result.bind_ok h
    obtain rfl := Except.ok.inj hrs
    exact ⟨bs, hbs, rfl⟩
  · rintro ⟨bs, hbs, rfl⟩
    rw [readEach, hbs]
    rfl

theorem readEach_error : readEach entry yield xs = .error e ↔ xs.mapM entry = .error e := by
  constructor
  · intro h
    rcases Result.bind_error h with h | ⟨bs, -, h⟩
    · exact h
    · cases h
  · intro h
    rw [readEach, h]
    rfl

theorem readEach_single_ok {part : List α} :
    readEach entry yield [x] = .ok part ↔ ∃ b, entry x = .ok b ∧ part = yield b := by
  rw [readEach_ok]
  constructor
  · rintro ⟨bs, hbs, rfl⟩
    cases Result.mapM_eq_ok.mp hbs with
    | @cons _ b _ _ hb hnil =>
      cases hnil
      exact ⟨b, hb, List.flatMap_singleton yield b⟩
  · rintro ⟨b, hb, rfl⟩
    exact ⟨[b], Result.mapM_eq_ok.mpr (.cons hb .nil), (List.flatMap_singleton yield b).symm⟩

theorem readEach_single_error :
    readEach entry yield [x] = .error e ↔ entry x = .error e := by
  rw [readEach_error, Result.mapM_eq_error]
  constructor
  · rintro ⟨before, y, after, hxs, -, hy⟩
    cases before with
    | nil =>
      cases hxs
      exact hy
    | cons z before => cases before <;> cases hxs
  · intro h
    exact ⟨[], x, [], rfl, ⟨[], rfl⟩, h⟩

theorem readEach_append {ys : List Value} {rs : List α} :
    readEach entry yield (xs ++ ys) = .ok rs ↔ ∃ firsts lasts,
      readEach entry yield xs = .ok firsts ∧ readEach entry yield ys = .ok lasts ∧
        rs = firsts ++ lasts := by
  simp only [readEach_ok, Result.mapM_append_ok]
  constructor
  · rintro ⟨_, ⟨firsts, lasts, hfirsts, hlasts, rfl⟩, rfl⟩
    exact ⟨_, _, ⟨firsts, hfirsts, rfl⟩, ⟨lasts, hlasts, rfl⟩, List.flatMap_append⟩
  · rintro ⟨_, _, ⟨firsts, hfirsts, rfl⟩, ⟨lasts, hlasts, rfl⟩, rfl⟩
    exact ⟨_, ⟨firsts, lasts, hfirsts, hlasts, rfl⟩, List.flatMap_append.symm⟩

/-- What the entries yield is what each yields alone. -/
theorem readEach_entries {rs : List α} : readEach entry yield xs = .ok rs ↔
    ∃ parts, List.Forall₂ (fun x part => readEach entry yield [x] = .ok part) xs parts ∧
      rs = parts.flatten := by
  constructor
  · intro h
    obtain ⟨bs, hbs, rfl⟩ := readEach_ok.mp h
    have hparts := (Result.mapM_eq_ok.mp hbs).imp fun x b hb =>
      (readEach_single_ok.mpr ⟨b, hb, rfl⟩ : readEach entry yield [x] = .ok (yield b))
    exact ⟨bs.map yield, List.forall₂_map_right_iff.mpr hparts, List.flatMap_def⟩
  · rintro ⟨parts, hparts, rfl⟩
    induction hparts with
    | nil => rfl
    | @cons x part xs parts hfirst _ ih =>
      exact readEach_append.mpr ⟨part, parts.flatten, hfirst, ih, rfl⟩

theorem entryByEntry_readEach (entry : Value → Read β) (yield : β → List α) :
    EntryByEntry (readEach entry yield) where
  append _ _ _ := readEach_append
  error xs e := by
    rw [readEach_error, Result.mapM_eq_error]
    constructor
    · rintro ⟨before, x, after, hxs, ⟨bs, hbs⟩, hx⟩
      exact ⟨before, x, after, hxs, ⟨_, readEach_ok.mpr ⟨bs, hbs, rfl⟩⟩,
        readEach_single_error.mpr hx⟩
    · rintro ⟨before, x, after, hxs, ⟨rs, hrs⟩, hx⟩
      obtain ⟨bs, hbs, -⟩ := readEach_ok.mp hrs
      exact ⟨before, x, after, hxs, ⟨bs, hbs⟩, readEach_single_error.mp hx⟩
  entries _ _ := readEach_entries

end

variable {app : App} {v : Value} {d : Dict Value}

/-- What counts as a text: a string or a number. -/
inductive Textual : Value → Prop where
  | str (s : String) : Textual (.str s)
  | int (n : Int) : Textual (.int n)
  | float (x : Binary) : Textual (.float x)

theorem toText_isSome : (toText? v).isSome = true ↔ Textual v := by
  cases v with
  | str s => exact ⟨fun _ => .str s, fun _ => rfl⟩
  | int n => exact ⟨fun _ => .int n, fun _ => rfl⟩
  | float x => exact ⟨fun _ => .float x, fun _ => rfl⟩
  | _ => exact ⟨nofun, nofun⟩

/-- An object whose id is absent, empty, or neither a string nor a number. -/
inductive Unnamed (d : Dict Value) : Prop where
  | absent (h : d.get? "id" = none)
  | empty (h : d.get? "id" = some (.str ""))
  | untextual {v : Value} (h : d.get? "id" = some v) (hv : ¬Textual v)

theorem positional_ne_nil (s : Scientific) (whole : Bool) : s.positional whole ≠ [] := by
  have hdigits : Text.digits s.digits ≠ [] := Text.digits_ne_nil s.digits
  unfold Scientific.positional
  split
  · simp [hdigits]
  · simp

theorem magnitude_ne_nil (s : Scientific) : Printer.magnitude s ≠ [] := by
  unfold Printer.magnitude
  dsimp only
  split
  · exact positional_ne_nil s true
  · simp [Printer.exponential]

theorem print_int_ne (n : Int) : (Value.int n).print ≠ "" := by
  have hchars : Text.intDigits n ≠ [] := by
    unfold Text.intDigits
    split
    · exact List.cons_ne_nil _ _
    · exact Text.digits_ne_nil _
  exact fun h => hchars (String.ofList_eq_empty_iff.mp h)

theorem print_float_ne (x : Binary) : (Value.float x).print ≠ "" := by
  have hchars : Printer.float Number.Format.double x ≠ [] := by
    refine List.append_ne_nil_of_right_ne_nil _ ?_
    split
    · exact List.cons_ne_nil _ _
    · exact magnitude_ne_nil _
  exact fun h => hchars (String.ofList_eq_empty_iff.mp h)

theorem nonEmpty_of_ne {s : String} (h : s ≠ "") : nonEmpty (some s) = some s := by
  simpa [nonEmpty] using h

/-- What is read as an id is there, a string or a number, and not empty. -/
theorem offeredId_eq_none : offeredId? (.obj d) = none ↔ Unnamed d := by
  have hid : offeredId? (.obj d) = nonEmpty ((d.get? "id").bind toText?) := rfl
  rw [hid]
  constructor
  · intro h
    cases hget : d.get? "id" with
    | none => exact .absent hget
    | some v =>
      rw [hget, Option.bind_some] at h
      cases v with
      | str s =>
        by_cases hs : s = ""
        · exact .empty (hs ▸ hget)
        · rw [toText?, nonEmpty_of_ne hs] at h
          cases h
      | int n =>
        rw [toText?, nonEmpty_of_ne (print_int_ne n)] at h
        cases h
      | float x =>
        rw [toText?, nonEmpty_of_ne (print_float_ne x)] at h
        cases h
      | _ => exact .untextual hget nofun
  · rintro (hget | hget | ⟨hget, hv⟩)
    · rw [hget]
      rfl
    · rw [hget]
      rfl
    · rw [← toText_isSome, Option.not_isSome_iff_eq_none] at hv
      rw [hget, Option.bind_some, hv]
      rfl

theorem gateway_obj (app : App) (d : Dict Value) : ∃ g, gateway? app (.obj d) = .ok g := by
  have hobject : object (.obj d) "a payment gateway object" = .ok d := rfl
  unfold gateway?
  rw [Result.ok_bind hobject]
  cases nonEmpty (optionalText d "id") with
  | none => exact ⟨none, rfl⟩
  | some id => exact ⟨some _, rfl⟩

theorem gateway_error {e : AnswerError} : gateway? app v = .error e ↔
    (∀ d, v ≠ .obj d) ∧ e = .unexpectedShape "a payment gateway object" := by
  cases v with
  | obj d =>
    obtain ⟨g, hg⟩ := gateway_obj app d
    rw [hg]
    exact ⟨nofun, fun h => absurd rfl (h.1 d)⟩
  | _ => exact ⟨fun h => ⟨nofun, (Except.error.inj h).symm⟩, fun h => h.2 ▸ rfl⟩

theorem gateway_none (app : App) : gateway? app (.obj d) = .ok none ↔ Unnamed d := by
  obtain ⟨g, hg⟩ := gateway_obj app d
  have hid := gateway_id hg
  rw [hg, Except.ok.injEq, ← offeredId_eq_none, ← Option.map_eq_none_iff, hid,
    Option.map_eq_none_iff]

theorem readGateways_arr (app : App) (xs : List Value) :
    readGateways (.arr xs) app = readEach (gateway? app) Option.toList xs := by
  have hflat (gs : List (Option PaymentGateway)) : gs.filterMap id = gs.flatMap Option.toList :=
    List.filterMap_eq_flatMap_toList id gs
  simp only [readGateways, readEach, hflat]
  rfl

theorem readShippingMethods_arr (app : App) (xs : List Value) :
    readShippingMethods (.arr xs) app = readEach (shippingMethod app) (fun m => [m]) xs := by
  simp only [readShippingMethods, readEach, List.flatMap_singleton']
  exact (bind_pure _).symm

theorem readGateways_unnamed :
    readGateways (.arr [.obj d]) app = .ok [] ↔ Unnamed d := by
  rw [readGateways_arr, readEach_single_ok, ← gateway_none app]
  constructor
  · rintro ⟨g, hg, hnone⟩
    rwa [Option.toList_eq_nil_iff.mp hnone.symm] at hg
  · exact fun h => ⟨none, h, rfl⟩

theorem readGateways_named :
    (∃ g, readGateways (.arr [.obj d]) app = .ok [g]) ↔ ¬Unnamed d := by
  rw [readGateways_arr, ← gateway_none app]
  constructor
  · rintro ⟨g, hg⟩ hnone
    obtain ⟨h, hsome, hlist⟩ := readEach_single_ok.mp hg
    rw [hnone] at hsome
    cases hsome
    cases hlist
  · intro hnamed
    obtain ⟨_ | g, hg⟩ := gateway_obj app d
    · exact absurd hg hnamed
    · exact ⟨g, readEach_single_ok.mpr ⟨some g, hg, rfl⟩⟩

theorem readShippingMethods_each {xs : List Value} {ms : List ShippingMethod} :
    readShippingMethods (.arr xs) app = .ok ms ↔
      List.Forall₂ (fun x m => readShippingMethods (.arr [x]) app = .ok [m]) xs ms := by
  have hsingle (x : Value) (m : ShippingMethod) :
      readShippingMethods (.arr [x]) app = .ok [m] ↔ shippingMethod app x = .ok m := by
    simp [readShippingMethods_arr, readEach_single_ok]
  simp only [hsingle]
  exact Result.mapM_eq_ok

/-- Gateways and shipping methods are read entry by entry. Of gateways only entries that are no
objects are errors, and those without an id yield nothing; every shipping method yields one. Of the
app nothing counts but its id. -/
theorem offers_read_entry_by_entry (app : App) :
    EntryByEntry (fun xs => readGateways (.arr xs) app) ∧
    EntryByEntry (fun xs => readShippingMethods (.arr xs) app) ∧
    (∀ x e, readGateways (.arr [x]) app = .error e ↔
      (∀ d, x ≠ .obj d) ∧ e = .unexpectedShape "a payment gateway object") ∧
    (∀ d, readGateways (.arr [.obj d]) app = .ok [] ↔ Unnamed d) ∧
    (∀ d, (∃ g, readGateways (.arr [.obj d]) app = .ok [g]) ↔ ¬Unnamed d) ∧
    (∀ xs ms, readShippingMethods (.arr xs) app = .ok ms ↔
      List.Forall₂ (fun x m => readShippingMethods (.arr [x]) app = .ok [m]) xs ms) ∧
    ∀ (v : Value) (other : App),
      readGateways v { other with id := app.id } = readGateways v app ∧
        readShippingMethods v { other with id := app.id } = readShippingMethods v app := by
  refine ⟨?_, ?_, fun x e => ?_, fun _ => readGateways_unnamed, fun _ => readGateways_named,
    fun _ _ => readShippingMethods_each, fun _ _ => ⟨rfl, rfl⟩⟩
  · simp only [readGateways_arr]
    exact entryByEntry_readEach (gateway? app) Option.toList
  · simp only [readShippingMethods_arr]
    exact entryByEntry_readEach (shippingMethod app) fun m => [m]
  · rw [readGateways_arr, readEach_single_error, gateway_error]

end ShopRelay.Answer
