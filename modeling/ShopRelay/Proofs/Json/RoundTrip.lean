import ShopRelay.Proofs.Dict
import ShopRelay.Proofs.Json.Literals

/-!
Printed JSON is read back: the trees whose text tells all there is to them, and the values whose
numbers are whole.
-/

namespace ShopRelay.Json

/-- Trees that are read back from their text: nested in at most `room` containers, with texts and
whole numbers of 64 bits for leaves, minus zero being one of these. -/
inductive Tree.Plain : Nat → Tree → Prop where
  | null {room : Nat} : Plain room .null
  | bool {room : Nat} (b : Bool) : Plain room (.bool b)
  | int {room : Nat} {n : Int} (low : Text.minInt64 ≤ n) (high : n ≤ Text.maxUInt64) :
    Plain room (.int n)
  | minusZero {room : Nat} : Plain room (.float minusZero)
  | str {room : Nat} (s : String) : Plain room (.str s)
  | arr {room : Nat} {items : List Tree} (h : ∀ t ∈ items, Plain room t) :
    Plain (room + 1) (.arr items)
  | obj {room : Nat} {members : List (String × Tree)} (h : ∀ m ∈ members, Plain room m.2) :
    Plain (room + 1) (.obj members)

namespace Reader

variable {fuel depth : Nat} {rest : List Char} {t : Tree}

/-- A tree is read back at a depth, whatever follows its text. -/
def Reads (depth : Nat) (t : Tree) : Prop :=
  ∀ fuel rest, 2 * (Printer.tree t).length ≤ fuel + 1 → EndsNumber rest →
    value? fuel depth (Printer.tree t ++ rest) = some (t, rest)

/-- Characters that no reader skips. -/
abbrev Visible (c : Char) : Prop := c ≠ ' ' ∧ c ≠ '\n' ∧ c ≠ '\t' ∧ c ≠ '\r'

theorem skipBlanks_visible {c : Char} (h : Visible c) (cs : List Char) :
    skipBlanks (c :: cs) = c :: cs := by
  obtain ⟨hspace, hline, htab, hreturn⟩ := h
  simp [skipBlanks, hspace, hline, htab, hreturn]

/-- A whole number begins with a digit or a minus sign. -/
theorem intDigits_cons (n : Int) :
    ∃ c cs, Text.intDigits n = c :: cs ∧ (c = '-' ∨ c.isDigit = true) := by
  unfold Text.intDigits
  split
  · exact ⟨'-', _, rfl, .inl rfl⟩
  · obtain ⟨c, cs, hcs, hdigit⟩ := Text.digits_cons n.natAbs
    exact ⟨c, cs, hcs, .inr hdigit⟩

theorem ne_of_number {c d : Char} (h : c = '-' ∨ c.isDigit = true) (hd : d ≠ '-')
    (hdigit : d.isDigit = false) : c ≠ d := by
  rintro rfl
  rcases h with h | h
  · exact hd h
  · rw [hdigit] at h
    cases h

theorem visible_of_number {c : Char} (h : c = '-' ∨ c.isDigit = true) : Visible c :=
  ⟨ne_of_number h (by decide) rfl, ne_of_number h (by decide) rfl, ne_of_number h (by decide) rfl,
    ne_of_number h (by decide) rfl⟩

/-- A value does not begin with what ends a list. -/
theorem tree_cons {room : Nat} (h : t.Plain room) :
    ∃ c cs, Printer.tree t = c :: cs ∧ Visible c ∧ c ≠ ']' := by
  cases h with
  | null => exact ⟨'n', _, rfl, by decide⟩
  | bool b =>
    cases b with
    | false => exact ⟨'f', _, rfl, by decide⟩
    | true => exact ⟨'t', _, rfl, by decide⟩
  | @int _ n low high =>
    obtain ⟨c, cs, hcs, hc⟩ := intDigits_cons n
    exact ⟨c, cs, hcs, visible_of_number hc, ne_of_number hc (by decide) rfl⟩
  | minusZero => exact ⟨'-', ['0', '.', '0'], rfl, by decide⟩
  | str s => exact ⟨'"', _, rfl, by decide⟩
  | @arr room items =>
    cases items with
    | nil => exact ⟨'[', _, rfl, by decide⟩
    | cons t ts => exact ⟨'[', _, rfl, by decide⟩
  | @obj room members =>
    cases members with
    | nil => exact ⟨'\x7b', _, rfl, by decide⟩
    | cons m ms => exact ⟨'\x7b', _, rfl, by decide⟩

/-- What begins like a number is read as one. -/
theorem value_number {c : Char} (h : c = '-' ∨ c.isDigit = true) (cs : List Char) :
    value? (fuel + 1) depth (c :: cs) =
      (numeral? (c :: cs)).map fun read => (read.1.toTree, read.2) := by
  rw [value?, skipBlanks_visible (visible_of_number h)]
  split
  case h_7 =>
    cases numeral? (c :: cs) with
    | none => rfl
    | some read => rfl
  all_goals
    rename_i heq
    exact absurd (List.cons.inj heq).1 (ne_of_number h (by decide) rfl)

theorem value_int {n : Int} (low : Text.minInt64 ≤ n) (high : n ≤ Text.maxUInt64)
    (h : EndsNumber rest) :
    value? (fuel + 1) depth (Text.intDigits n ++ rest) = some (.int n, rest) := by
  have hread := numeral_intDigits n h
  obtain ⟨c, cs, hcs, hc⟩ := intDigits_cons n
  rw [hcs, List.cons_append] at hread ⊢
  rw [value_number hc, hread, Option.map_some, Numeral.toTree_whole low high]

theorem value_minusZero (h : EndsNumber rest) :
    value? (fuel + 1) depth (Printer.tree (.float minusZero) ++ rest) =
      some (.float minusZero, rest) := by
  have htext : Printer.tree (.float minusZero) ++ rest = '-' :: '0' :: '.' :: '0' :: rest := rfl
  rw [htext, value_number (.inl rfl), numeral_minusZero h, Option.map_some,
    Numeral.toTree_minusZero]

theorem string_append (s : String) (rest : List Char) :
    Printer.string s ++ rest = '"' :: (s.toList.flatMap Printer.escape ++ '"' :: rest) := by
  simp [Printer.string]

theorem value_string (s : String) :
    value? (fuel + 1) depth (Printer.string s ++ rest) = some (.str s, rest) := by
  rw [string_append, value?, skipBlanks_visible (by decide)]
  simp [string_print]

theorem endsNumber_items (ts : List Tree) (rest : List Char) :
    EndsNumber (Printer.items ts ++ rest) := by
  intro c hc
  cases ts with
  | nil =>
    obtain rfl : ']' = c := Option.some.inj hc
    decide
  | cons t ts =>
    obtain rfl : ',' = c := Option.some.inj hc
    decide

theorem endsNumber_members (ms : List (String × Tree)) (rest : List Char) :
    EndsNumber (Printer.members ms ++ rest) := by
  intro c hc
  cases ms with
  | nil =>
    obtain rfl : '\x7d' = c := Option.some.inj hc
    decide
  | cons m ms =>
    obtain rfl : ',' = c := Option.some.inj hc
    decide

/-- The items from a first one on are read in a row, if each is read back alone. -/
theorem items_read {t : Tree} {ts : List Tree} (h : ∀ u ∈ t :: ts, Reads depth u) (fuel : Nat)
    (hfuel : 2 * ((Printer.tree t).length + (Printer.items ts).length) ≤ fuel + 1) :
    items? fuel depth (Printer.tree t ++ (Printer.items ts ++ rest)) = some (t :: ts, rest) := by
  induction ts generalizing t fuel with
  | nil =>
    simp only [Printer.items, List.length_cons, List.length_nil] at hfuel
    obtain ⟨fuel, rfl⟩ : ∃ k, fuel = k + 1 := ⟨fuel - 1, by omega⟩
    have ht := h t List.mem_cons_self fuel (Printer.items [] ++ rest) (by omega)
      (endsNumber_items [] rest)
    rw [items?, ht]
    rfl
  | cons u us ih =>
    simp only [Printer.items, List.length_cons, List.length_append] at hfuel
    obtain ⟨fuel, rfl⟩ : ∃ k, fuel = k + 1 := ⟨fuel - 1, by omega⟩
    have ht := h t List.mem_cons_self fuel (Printer.items (u :: us) ++ rest) (by omega)
      (endsNumber_items (u :: us) rest)
    have hrest := ih (fun v hv => h v (List.mem_cons_of_mem _ hv)) fuel (by omega)
    have htext : Printer.items (u :: us) ++ rest =
        ',' :: (Printer.tree u ++ (Printer.items us ++ rest)) := by
      simp [Printer.items]
    rw [items?, ht, htext]
    simp [skipBlanks_visible (by decide : Visible ','), hrest]

theorem reads_arr {room : Nat} {items : List Tree} (plain : ∀ t ∈ items, t.Plain room)
    (h : ∀ t ∈ items, Reads (depth + 1) t) (hdepth : depth < maxDepth) :
    Reads depth (.arr items) := by
  intro fuel rest hfuel _
  have hopen : Visible '[' := by decide
  cases items with
  | nil =>
    simp only [Printer.tree, List.length_cons, List.length_nil] at hfuel
    obtain ⟨fuel, rfl⟩ : ∃ k, fuel = k + 1 := ⟨fuel - 1, by omega⟩
    have hclose : skipBlanks (']' :: rest) = ']' :: rest := skipBlanks_visible (by decide) rest
    rw [Printer.tree, value?, List.cons_append, skipBlanks_visible hopen]
    simp [hclose, atDepth, hdepth]
  | cons t ts =>
    simp only [Printer.tree, List.length_cons, List.length_append] at hfuel
    obtain ⟨fuel, rfl⟩ : ∃ k, fuel = k + 1 := ⟨fuel - 1, by omega⟩
    have hread : items? fuel (depth + 1) (Printer.tree t ++ (Printer.items ts ++ rest)) =
        some (t :: ts, rest) := items_read h fuel (by omega)
    obtain ⟨c, cs, hcs, hc, hend⟩ := tree_cons (plain t List.mem_cons_self)
    have htext : Printer.tree (.arr (t :: ts)) ++ rest =
        '[' :: c :: (cs ++ (Printer.items ts ++ rest)) := by
      simp [Printer.tree, hcs]
    rw [hcs, List.cons_append] at hread
    rw [htext, value?, skipBlanks_visible hopen]
    simp [skipBlanks_visible hc, hend, hread, atDepth, hdepth]

/-- The members from a first one on are read in a row, if each content is read back alone. -/
theorem members_read {k : String} {t : Tree} {ms : List (String × Tree)}
    (h : ∀ m ∈ (k, t) :: ms, Reads depth m.2) (fuel : Nat)
    (hfuel : 2 * ((Printer.tree t).length + (Printer.members ms).length) ≤ fuel + 1) :
    members? fuel depth (Printer.string k ++ ':' :: (Printer.tree t ++
      (Printer.members ms ++ rest))) = some (some ((k, t) :: ms), rest) := by
  have hquote : Visible '"' := by decide
  have hcolon : Visible ':' := by decide
  have ht : Reads depth t := h (k, t) List.mem_cons_self
  induction ms generalizing k t fuel with
  | nil =>
    simp only [Printer.members, List.length_cons, List.length_nil] at hfuel
    obtain ⟨fuel, rfl⟩ : ∃ k, fuel = k + 1 := ⟨fuel - 1, by omega⟩
    have hread := ht fuel (Printer.members [] ++ rest) (by omega) (endsNumber_members [] rest)
    have hclose : skipBlanks (Printer.members [] ++ rest) = '\x7d' :: rest :=
      skipBlanks_visible (by decide) rest
    rw [members?, string_append, skipBlanks_visible hquote]
    simp [string_print, skipBlanks_visible hcolon, hread, hclose]
  | cons m ms ih =>
    obtain ⟨l, u⟩ := m
    simp only [Printer.members, List.length_cons, List.length_append] at hfuel
    obtain ⟨fuel, rfl⟩ : ∃ k, fuel = k + 1 := ⟨fuel - 1, by omega⟩
    have hread := ht fuel (Printer.members ((l, u) :: ms) ++ rest) (by omega)
      (endsNumber_members ((l, u) :: ms) rest)
    have hms := fun m hm => h m (List.mem_cons_of_mem (k, t) hm)
    have hrest := ih hms fuel (by omega) (hms (l, u) List.mem_cons_self)
    have hcomma : skipBlanks (Printer.members ((l, u) :: ms) ++ rest) =
        ',' :: (Printer.string l ++ ':' :: (Printer.tree u ++ (Printer.members ms ++ rest))) := by
      have hmark : Visible ',' := by decide
      simp [Printer.members, skipBlanks_visible hmark]
    rw [members?, string_append, skipBlanks_visible hquote]
    simp [string_print, skipBlanks_visible hcolon, hread, hcomma, hrest]

theorem reads_obj {members : List (String × Tree)} (h : ∀ m ∈ members, Reads (depth + 1) m.2)
    (hdepth : depth < maxDepth) : Reads depth (.obj members) := by
  intro fuel rest hfuel _
  have hopen : Visible '\x7b' := by decide
  cases members with
  | nil =>
    simp only [Printer.tree, List.length_cons, List.length_nil] at hfuel
    obtain ⟨fuel, rfl⟩ : ∃ k, fuel = k + 1 := ⟨fuel - 1, by omega⟩
    have hclose : skipBlanks ('\x7d' :: rest) = '\x7d' :: rest := skipBlanks_visible (by decide) rest
    rw [Printer.tree, value?, List.cons_append, skipBlanks_visible hopen]
    simp [hclose, atDepth, hdepth]
  | cons m ms =>
    obtain ⟨k, t⟩ := m
    simp only [Printer.tree, List.length_cons, List.length_append] at hfuel
    obtain ⟨fuel, rfl⟩ : ∃ k, fuel = k + 1 := ⟨fuel - 1, by omega⟩
    have hread : members? fuel (depth + 1) (Printer.string k ++ ':' :: (Printer.tree t ++
        (Printer.members ms ++ rest))) = some (some ((k, t) :: ms), rest) :=
      members_read h fuel (by omega)
    have htext : Printer.tree (.obj ((k, t) :: ms)) ++ rest =
        '\x7b' :: (Printer.string k ++ ':' :: (Printer.tree t ++ (Printer.members ms ++ rest))) := by
      simp [Printer.tree]
    rw [string_append] at hread htext
    rw [htext, value?, skipBlanks_visible hopen]
    simp [skipBlanks_visible (by decide : Visible '"'), hread, atDepth, hdepth]

theorem reads_leaf {room : Nat} (plain : t.Plain room)
    (h : ∀ fuel rest, EndsNumber rest →
      value? (fuel + 1) depth (Printer.tree t ++ rest) = some (t, rest)) : Reads depth t := by
  intro fuel rest hfuel hrest
  obtain ⟨c, cs, hcs, -⟩ := tree_cons plain
  rw [hcs, List.length_cons] at hfuel
  obtain ⟨fuel, rfl⟩ : ∃ k, fuel = k + 1 := ⟨fuel - 1, by omega⟩
  exact h fuel rest hrest

/-- A plain tree is read back wherever there is room for it. -/
theorem reads_of_plain {room : Nat} (h : t.Plain room) (hdepth : depth + room ≤ maxDepth) :
    Reads depth t := by
  induction h generalizing depth with
  | @null room => exact reads_leaf (@Tree.Plain.null room) fun _ _ _ => rfl
  | @bool room b =>
    refine reads_leaf (@Tree.Plain.bool room b) fun _ _ _ => ?_
    cases b with
    | false => rfl
    | true => rfl
  | @int room n low high =>
    exact reads_leaf (@Tree.Plain.int room n low high) fun _ _ hrest => value_int low high hrest
  | @minusZero room =>
    exact reads_leaf (@Tree.Plain.minusZero room) fun _ _ hrest => value_minusZero hrest
  | @str room s => exact reads_leaf (@Tree.Plain.str room s) fun _ _ _ => value_string s
  | arr plain ih => exact reads_arr plain (fun t ht => ih t ht (by omega)) (by omega)
  | obj plain ih => exact reads_obj (fun m hm => ih m hm (by omega)) (by omega)

end Reader

/-- A plain tree is what its text is read as. -/
theorem Tree.parse_print {t : Tree} (h : t.Plain maxDepth) : Tree.parse? t.print = some t := by
  have hreads : Reader.Reads 0 t := Reader.reads_of_plain h (Nat.le_of_eq (Nat.zero_add _))
  have hread := hreads (2 * (Printer.tree t).length + 2) [] (by omega) (by simp [Reader.EndsNumber])
  rw [List.append_nil] at hread
  unfold Tree.parse? Tree.print Tree.parseChars?
  rw [String.toList_ofList, hread]
  rfl

/-- Values nested in at most `room` containers, with whole numbers of 64 bits only, and with the
members of objects in the order of their keys. -/
inductive Value.Plain : Nat → Value → Prop where
  | null {room : Nat} : Plain room .null
  | bool {room : Nat} (b : Bool) : Plain room (.bool b)
  | int {room : Nat} {n : Int} (low : Text.minInt64 ≤ n) (high : n ≤ Text.maxUInt64) :
    Plain room (.int n)
  | str {room : Nat} (s : String) : Plain room (.str s)
  | arr {room : Nat} {items : List Value} (h : ∀ v ∈ items, Plain room v) :
    Plain (room + 1) (.arr items)
  | obj {room : Nat} {members : Dict Value} (sorted : Dict.Sorted members)
      (h : ∀ m ∈ members, Plain room m.2) : Plain (room + 1) (.obj members)

namespace Tree

theorem ofItems_eq_map (items : List Value) : ofItems items = items.map ofValue := by
  induction items with
  | nil => rfl
  | cons v items ih => rw [ofItems, ih, List.map_cons]

theorem ofMembers_eq_map (members : List (String × Value)) :
    ofMembers members = members.map fun m => (m.1, ofValue m.2) := by
  induction members with
  | nil => rfl
  | cons m members ih => rw [ofMembers, ih, List.map_cons]

theorem plain_ofValue {room : Nat} {v : Value} (h : v.Plain room) : (ofValue v).Plain room := by
  induction h with
  | null => exact .null
  | bool b => exact .bool b
  | int low high => exact .int low high
  | str s => exact .str s
  | arr _ ih =>
    rw [ofValue, ofItems_eq_map]
    refine .arr fun t ht => ?_
    obtain ⟨v, hv, rfl⟩ := List.mem_map.mp ht
    exact ih v hv
  | obj _ _ ih =>
    rw [ofValue, ofMembers_eq_map]
    refine .obj fun m hm => ?_
    obtain ⟨n, hn, rfl⟩ := List.mem_map.mp hm
    exact ih n hn

theorem toItems_ofItems {items : List Value}
    (h : ∀ v ∈ items, toValue? (ofValue v) = some v) : toItems? (ofItems items) = some items := by
  induction items with
  | nil => rfl
  | cons v items ih =>
    have hv := h v List.mem_cons_self
    have hrest := ih fun u hu => h u (List.mem_cons_of_mem _ hu)
    simp [ofItems, toItems?, hv, hrest]

theorem toMembers_ofMembers {members : List (String × Value)}
    (h : ∀ m ∈ members, toValue? (ofValue m.2) = some m.2) :
    toMembers? (ofMembers members) = some members := by
  induction members with
  | nil => rfl
  | cons m members ih =>
    have hm := h m List.mem_cons_self
    have hrest := ih fun n hn => h n (List.mem_cons_of_mem _ hn)
    simp [ofMembers, toMembers?, hm, hrest]

theorem toValue_ofValue {room : Nat} {v : Value} (h : v.Plain room) :
    toValue? (ofValue v) = some v := by
  induction h with
  | null => rfl
  | bool b => rfl
  | int low high => rfl
  | str s => rfl
  | arr _ ih => simp [ofValue, toValue?, toItems_ofItems ih]
  | obj sorted _ ih =>
    simp [ofValue, toValue?, toMembers_ofMembers ih, Value.ofMembers, Dict.ofList_sorted sorted]

end Tree

/-- A plain value is what its text is read as. -/
theorem Value.parse_print {v : Value} (h : v.Plain maxDepth) : Value.parse? v.print = some v := by
  have htree : Tree.parse? v.print = some (.ofValue v) := Tree.parse_print (Tree.plain_ofValue h)
  simp [Value.parse?, htree, Tree.toValue_ofValue h]

end ShopRelay.Json
