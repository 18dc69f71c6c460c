import ShopRelay.Answer.Tax
import ShopRelay.Proofs.Answer.Optional
import ShopRelay.Proofs.Dict
import ShopRelay.Proofs.Result

/-!
The tax codes of an answer are read entry by entry, and an entry replaces what earlier ones said of
its code. The list is rejected for its first entry that has no code.
-/

namespace ShopRelay.Answer

open Json

/-- A number, or a text that is not empty. -/
def Names (v : Value) (s : String) : Prop := Spells v s ∧ v ≠ .str ""

/-- An object with a code. -/
def Coded (v : Value) : Prop :=
  ∃ d w, v = .obj d ∧ Dict.get? d "code" = some w ∧ Textual w ∧ w ≠ .str ""

/-- What an entry says of its code. Without a description the code describes itself. -/
inductive Entry : Value → String → String → Prop where
  | of {d : Dict Value} {code description : String} (hcode : Holds Names d "code" code)
    (hdescription : HoldsOr Names d "description" code description) :
    Entry (.obj d) code description

/-- Why an entry is rejected. -/
inductive EntryFault : Value → AnswerError → Prop where
  | shape {v : Value} (h : ∀ d, v ≠ .obj d) : EntryFault v (.unexpectedShape "a tax code object")
  | code {d : Dict Value} (h : ¬Coded (.obj d)) : EntryFault (.obj d) (.missingField "code")

/-- The last entry with a code describes it so. -/
def Describes (xs : List Value) (code description : String) : Prop :=
  ∃ before x after, xs = before ++ x :: after ∧ Entry x code description ∧
    ∀ y ∈ after, ∀ other, ¬Entry y code other

variable {d : Dict Value} {v x : Value} {xs ys : List Value} {key s code description : String}
  {codes : Dict String} {e : AnswerError}

theorem exists_spells : (∃ s, Spells v s) ↔ Textual v := by
  simp only [← toText_eq_some, ← toText_isSome, Option.isSome_iff_exists]

theorem Names.ne_empty (h : Names v s) : s ≠ "" := by
  obtain ⟨hs, hv⟩ := h
  cases hs with
  | str =>
    rintro rfl
    exact hv rfl
  | int n => exact print_int_ne n
  | float x => exact print_float_ne x

theorem nonEmpty_optionalText : nonEmpty (optionalText d key) = some s ↔ Holds Names d key s := by
  rw [nonEmpty, Option.filter_eq_some_iff, optionalText_eq_some]
  constructor
  · rintro ⟨⟨v, hv, hs⟩, hfilled⟩
    refine ⟨v, hv, hs, ?_⟩
    rintro rfl
    cases hs
    cases hfilled
  · rintro ⟨v, hv, hnames⟩
    exact ⟨⟨v, hv, hnames.1⟩, by simpa using hnames.ne_empty⟩

theorem getD_nonEmpty {fallback : String} :
    (nonEmpty (optionalText d key)).getD fallback = s ↔ HoldsOr Names d key fallback s :=
  getD_eq_iff fun _ => nonEmpty_optionalText

theorem coded_iff : Coded v ↔ ∃ code description, Entry v code description := by
  constructor
  · rintro ⟨d, w, rfl, hw, htextual, hne⟩
    obtain ⟨code, hcode⟩ := exists_spells.mpr htextual
    exact ⟨code, _, .of ⟨w, hw, hcode, hne⟩ (getD_nonEmpty.mp rfl)⟩
  · rintro ⟨code, description, ⟨w, hw, hcode, hne⟩, -⟩
    exact ⟨_, w, rfl, hw, exists_spells.mp ⟨code, hcode⟩, hne⟩

theorem taxCode_ok : taxCode v = .ok (code, description) ↔ Entry v code description := by
  constructor
  · intro h
    obtain ⟨d, hd, hrest⟩ := Result.bind_ok h
    obtain rfl := object_ok hd
    split at hrest
    · cases hrest
    · next hcode =>
      cases hrest
      exact .of (nonEmpty_optionalText.mp hcode) (getD_nonEmpty.mp rfl)
  · rintro ⟨hcode, hdescription⟩
    rw [taxCode, Result.ok_bind (x := object _ _) rfl, nonEmpty_optionalText.mpr hcode]
    dsimp only
    rw [getD_nonEmpty.mpr hdescription]
    rfl

theorem taxCode_uncoded (h : ¬Coded (.obj d)) :
    taxCode (.obj d) = .error (.missingField "code") := by
  rw [taxCode, Result.ok_bind (x := object _ _) rfl]
  cases hcode : nonEmpty (optionalText d "code") with
  | none => rfl
  | some code =>
    exact absurd (coded_iff.mpr ⟨code, _, .of (nonEmpty_optionalText.mp hcode)
      (getD_nonEmpty.mp rfl)⟩) h

theorem taxCode_error : taxCode v = .error e ↔ EntryFault v e := by
  constructor
  · intro h
    cases v with
    | obj d =>
      by_cases hcoded : Coded (.obj d)
      · obtain ⟨code, description, hentry⟩ := coded_iff.mp hcoded
        rw [taxCode_ok.mpr hentry] at h
        cases h
      · rw [taxCode_uncoded hcoded] at h
        cases h
        exact .code hcoded
    | _ =>
      cases h
      exact .shape nofun
  · rintro (hshape | hcoded)
    · cases v with
      | obj d => exact absurd rfl (hshape d)
      | _ => rfl
    · exact taxCode_uncoded hcoded

theorem exists_taxCode : (∃ c, taxCode v = .ok c) ↔ Coded v := by
  rw [coded_iff]
  constructor
  · rintro ⟨⟨code, description⟩, h⟩
    exact ⟨code, description, taxCode_ok.mp h⟩
  · rintro ⟨code, description, h⟩
    exact ⟨_, taxCode_ok.mpr h⟩

theorem readTaxCodes_arr : readTaxCodes (.arr xs) = (xs.mapM taxCode).map Dict.ofList := by
  rw [readTaxCodes, Result.ok_bind (x := items _ _) rfl]
  cases xs.mapM taxCode <;> rfl

theorem readTaxCodes_ok : readTaxCodes (.arr xs) = .ok codes ↔
    ∃ cs, xs.mapM taxCode = .ok cs ∧ codes = Dict.ofList cs := by
  rw [readTaxCodes_arr]
  cases xs.mapM taxCode with
  | error f => exact ⟨nofun, nofun⟩
  | ok cs =>
    constructor
    · intro h
      exact ⟨cs, rfl, (Except.ok.inj h).symm⟩
    · rintro ⟨_, hcs, rfl⟩
      cases hcs
      rfl

theorem readTaxCodes_error :
    readTaxCodes (.arr xs) = .error e ↔ xs.mapM taxCode = .error e := by
  rw [readTaxCodes_arr]
  cases xs.mapM taxCode with
  | error f =>
    change Except.error f = Except.error e ↔ Except.error f = Except.error e
    simp only [Except.error.injEq]
  | ok cs => exact ⟨nofun, nofun⟩

theorem get_eq_some_iff {cs : List (String × String)} (h : xs.mapM taxCode = .ok cs) :
    (Dict.ofList cs).get? code = some description ↔ Describes xs code description := by
  have hread := Result.mapM_eq_ok.mp h
  rw [Dict.get_ofList_eq_some]
  constructor
  · rintro ⟨before, after, rfl, hlast⟩
    obtain ⟨firsts, x, lasts, rfl, -, hx, hlasts⟩ := Result.forall₂_split hread
    refine ⟨firsts, x, lasts, rfl, taxCode_ok.mp hx, fun y hy other hentry => ?_⟩
    obtain ⟨c, hc, hyc⟩ := Result.exists_of_mem_right hlasts.flip hy
    obtain rfl := Except.ok.inj ((taxCode_ok.mpr hentry).symm.trans hyc)
    exact hlast _ hc rfl
  · rintro ⟨before, x, after, rfl, hentry, hlast⟩
    obtain ⟨firsts, c, lasts, rfl, -, hx, hlasts⟩ := Result.forall₂_split hread.flip
    obtain rfl := Except.ok.inj ((taxCode_ok.mpr hentry).symm.trans hx)
    refine ⟨firsts, lasts, rfl, fun c hc hcode => ?_⟩
    obtain ⟨y, hy, hyc⟩ := Result.exists_of_mem_right hlasts.flip hc
    exact hlast y hy c.2 (taxCode_ok.mp (hcode ▸ hyc))

theorem mem_keys_iff {cs : List (String × String)} (h : xs.mapM taxCode = .ok cs) :
    code ∈ (Dict.ofList cs).map Prod.fst ↔ ∃ x ∈ xs, ∃ description, Entry x code description := by
  have hread := Result.mapM_eq_ok.mp h
  rw [Dict.mem_keys_ofList, List.mem_map]
  constructor
  · rintro ⟨c, hc, rfl⟩
    obtain ⟨x, hx, hxc⟩ := Result.exists_of_mem_right hread hc
    exact ⟨x, hx, c.2, taxCode_ok.mp hxc⟩
  · rintro ⟨x, hx, description, hentry⟩
    obtain ⟨c, hc, hxc⟩ := Result.exists_of_mem_right hread.flip hx
    obtain rfl := Except.ok.inj ((taxCode_ok.mpr hentry).symm.trans hxc)
    exact ⟨_, hc, rfl⟩

theorem exists_mapM_taxCode : (∃ cs, xs.mapM taxCode = .ok cs) ↔ ∀ x ∈ xs, Coded x := by
  simp only [Result.exists_mapM_ok, exists_taxCode]

theorem exists_readTaxCodes :
    (∃ codes, readTaxCodes (.arr xs) = .ok codes) ↔ ∀ x ∈ xs, Coded x := by
  rw [← exists_mapM_taxCode]
  constructor
  · rintro ⟨codes, h⟩
    obtain ⟨cs, hcs, -⟩ := readTaxCodes_ok.mp h
    exact ⟨cs, hcs⟩
  · rintro ⟨cs, hcs⟩
    exact ⟨_, readTaxCodes_ok.mpr ⟨cs, hcs, rfl⟩⟩

/-- Two lists one after the other are read as the first, overridden by the second. -/
theorem readTaxCodes_append {all : Dict String} : readTaxCodes (.arr (xs ++ ys)) = .ok all ↔
    ∃ firsts lasts, readTaxCodes (.arr xs) = .ok firsts ∧ readTaxCodes (.arr ys) = .ok lasts ∧
      all.Sorted ∧ ∀ code, all.get? code = (lasts.get? code).or (firsts.get? code) := by
  simp only [readTaxCodes_ok, Result.mapM_append_ok]
  constructor
  · rintro ⟨_, ⟨firsts, lasts, hfirsts, hlasts, rfl⟩, rfl⟩
    exact ⟨_, _, ⟨firsts, hfirsts, rfl⟩, ⟨lasts, hlasts, rfl⟩, Dict.sorted_ofList _,
      Dict.get_ofList_append firsts lasts⟩
  · rintro ⟨_, _, ⟨firsts, hfirsts, rfl⟩, ⟨lasts, hlasts, rfl⟩, hsorted, hget⟩
    refine ⟨_, ⟨firsts, lasts, hfirsts, hlasts, rfl⟩, ?_⟩
    refine Dict.ext_of_sorted hsorted (Dict.sorted_ofList _) fun code => ?_
    rw [hget, Dict.get_ofList_append]

/-- A list of tax codes is accepted when each of its entries has a code. It is then read as these
codes, each with what the last entry with it says, so that of two lists one after the other the
second overrides the first. Any other list is rejected for its first entry without a code. -/
theorem tax_codes_read_in_turn (xs : List Value) :
    ((∃ codes, readTaxCodes (.arr xs) = .ok codes) ↔ ∀ x ∈ xs, Coded x) ∧
    (∀ codes, readTaxCodes (.arr xs) = .ok codes → codes.Sorted ∧
      (∀ code, code ∈ codes.map Prod.fst ↔ ∃ x ∈ xs, ∃ description, Entry x code description) ∧
      ∀ code description, codes.get? code = some description ↔ Describes xs code description) ∧
    (∀ ys all, readTaxCodes (.arr (xs ++ ys)) = .ok all ↔ ∃ firsts lasts,
      readTaxCodes (.arr xs) = .ok firsts ∧ readTaxCodes (.arr ys) = .ok lasts ∧ all.Sorted ∧
        ∀ code, all.get? code = (lasts.get? code).or (firsts.get? code)) ∧
    ∀ e, readTaxCodes (.arr xs) = .error e ↔ ∃ before x after, xs = before ++ x :: after ∧
      (∀ y ∈ before, Coded y) ∧ EntryFault x e := by
  refine ⟨exists_readTaxCodes, fun codes h => ?_, fun _ _ => readTaxCodes_append, fun e => ?_⟩
  · obtain ⟨cs, hcs, rfl⟩ := readTaxCodes_ok.mp h
    exact ⟨Dict.sorted_ofList cs, fun _ => mem_keys_iff hcs, fun _ _ => get_eq_some_iff hcs⟩
  · simp only [readTaxCodes_error, Result.mapM_eq_error, exists_mapM_taxCode, taxCode_error]

namespace Sample

/-- A code without a description, one whose description is a number, and a code that is given as a
number first and then as a text. -/
def taxCodes : List Value :=
  [.obj [("code", .str "P0"), ("description", .str "")],
    .obj [("code", .int 7), ("description", .str "seven")],
    .obj [("code", .str "F1"), ("description", .int (-2))],
    .obj [("code", .str "7"), ("description", .null)]]

end Sample

theorem tax_codes_read_in_turn_twice :
    readTaxCodes (.arr Sample.taxCodes) = .ok [("7", "7"), ("F1", "-2"), ("P0", "P0")] ∧
    Describes Sample.taxCodes "7" "7" ∧
    (∀ description, ¬Describes Sample.taxCodes "-2" description) ∧
    readTaxCodes (.arr (Sample.taxCodes ++ [.null])) =
      .error (.unexpectedShape "a tax code object") := by
  have hread : readTaxCodes (.arr Sample.taxCodes) =
      .ok [("7", "7"), ("F1", "-2"), ("P0", "P0")] := by rfl
  obtain ⟨coded, described, -, -⟩ := tax_codes_read_in_turn Sample.taxCodes
  obtain ⟨-, -, last⟩ := described _ hread
  refine ⟨hread, (last "7" "7").mp (by decide), fun description h => ?_, ?_⟩
  · cases (last "-2" description).mpr h
  · obtain ⟨-, -, -, fails⟩ := tax_codes_read_in_turn (Sample.taxCodes ++ [.null])
    exact (fails _).mpr ⟨Sample.taxCodes, .null, [], rfl, coded.mp ⟨_, hread⟩, .shape nofun⟩

end ShopRelay.Answer
