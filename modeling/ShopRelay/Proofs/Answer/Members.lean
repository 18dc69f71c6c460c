import ShopRelay.Proofs.Answer.Entries
import ShopRelay.Proofs.Dict

/-!
Objects with required members. Whatever is wrong with an object is listed in the order in which its
members are read; a reader stops at the first fault of the list.
-/

namespace ShopRelay.Answer

open Json
open Number (Decimal)

/-- What a required member is read as. -/
inductive Kind where
  | text
  | whole
  | amount

namespace Kind

def accepts : Kind → Value → Bool
  | .text, v => (toText? v).isSome
  | .whole, v => (toInt? v).isSome
  | .amount, v => (toDecimal? v).isSome

def Admits : Kind → Value → Prop
  | .text, v => Textual v
  | .whole, v => ∃ n, toInt? v = some n
  | .amount, v => ∃ x, toDecimal? v = some x

theorem accepts_iff {k : Kind} {v : Value} : k.accepts v = true ↔ k.Admits v := by
  cases k with
  | text => exact toText_isSome
  | whole => exact Option.isSome_iff_exists
  | amount => exact Option.isSome_iff_exists

/-- What is said of a member that cannot be read. -/
def fault (field : String) (v : Value) : Kind → AnswerError
  | .amount => .invalidDecimal field v
  | _ => .invalidField field

end Kind

/-- A member that must be there, and what it is read as. -/
structure Member where
  field : String
  kind : Kind

def Member.Usable (m : Member) (d : Dict Value) : Prop :=
  ∃ v, d.get? m.field = some v ∧ m.kind.Admits v

def Member.fault? (m : Member) (d : Dict Value) : Option AnswerError :=
  match d.get? m.field with
  | none => some (.missingField m.field)
  | some v => if m.kind.accepts v then none else some (m.kind.fault m.field v)

/-- All that is wrong with the members of an object. -/
def faults (ms : List Member) (d : Dict Value) : List AnswerError :=
  ms.flatMap fun m => (m.fault? d).toList

variable {d e : Dict Value} {m : Member} {ms : List Member} {key : String}

theorem Member.fault_eq_none : m.fault? d = none ↔ m.Usable d := by
  unfold fault? Usable
  cases d.get? m.field with
  | none => simp
  | some v => simp [Kind.accepts_iff]

theorem faults_eq_nil : faults ms d = [] ↔ ∀ m ∈ ms, m.Usable d := by
  simp only [faults, List.flatMap_eq_nil_iff, Option.toList_eq_nil_iff, Member.fault_eq_none]

/-- Nothing counts but the members that are read. -/
theorem faults_congr (h : ∀ m ∈ ms, d.get? m.field = e.get? m.field) :
    faults ms d = faults ms e := by
  unfold faults
  refine List.flatMap_congr fun m hm => ?_
  rw [Member.fault?, Member.fault?, h m hm]

/-- Of an object that had all its members only the erased one is missed. -/
theorem faults_erase (distinct : (ms.map Member.field).Nodup) (usable : ∀ m ∈ ms, m.Usable d)
    (hkey : key ∈ ms.map Member.field) : faults ms (Dict.erase d key) = [.missingField key] := by
  induction ms with
  | nil => cases hkey
  | cons m ms ih =>
    rw [List.map_cons, List.nodup_cons] at distinct
    obtain ⟨hfirst, hrest⟩ := distinct
    have hm : m.Usable d := usable m List.mem_cons_self
    have hms : ∀ m ∈ ms, m.Usable d := fun m hm => usable m (List.mem_cons_of_mem _ hm)
    have hcons : faults (m :: ms) (Dict.erase d key) =
      (m.fault? (Dict.erase d key)).toList ++ faults ms (Dict.erase d key) := rfl
    rw [hcons]
    by_cases heq : m.field = key
    · have hmissing : m.fault? (Dict.erase d key) = some (.missingField key) := by
        rw [Member.fault?, heq, Dict.get_erase_self]
      have hothers : faults ms (Dict.erase d key) = faults ms d := by
        refine faults_congr fun n hn => Dict.get_erase_other ?_ d
        rintro rfl
        exact hfirst (heq ▸ List.mem_map_of_mem hn)
      rw [hmissing, hothers, faults_eq_nil.mpr hms]
      rfl
    · have hkept : m.fault? (Dict.erase d key) = none := by
        rw [Member.fault_eq_none, Member.Usable, Dict.get_erase_other heq]
        exact hm
      rw [hkept, ih hrest hms ((List.mem_cons.mp hkey).resolve_left (Ne.symm heq))]
      rfl

/-- The reader yields something unless there are faults; then it is rejected for the first. -/
def StopsAt {α : Type} (r : Read α) (fs : List AnswerError) : Prop :=
  ∀ e, r = .error e ↔ fs.head? = some e

namespace StopsAt

variable {α β : Type} {r : Read α} {f : α → Read β} {fs gs : List AnswerError}

theorem ok (x : α) : StopsAt (.ok x) [] := fun _ => ⟨nofun, nofun⟩

theorem error (e : AnswerError) (fs : List AnswerError) :
    StopsAt (.error e : Read α) (e :: fs) := by
  intro e'
  rw [List.head?_cons, Option.some.injEq, Except.error.injEq]

theorem exists_ok (h : StopsAt r fs) : (∃ x, r = .ok x) ↔ fs = [] := by
  cases r with
  | ok x =>
    refine ⟨fun _ => ?_, fun _ => ⟨x, rfl⟩⟩
    cases fs with
    | nil => rfl
    | cons e fs => cases (h e).mpr rfl
  | error e =>
    have hhead := (h e).mp rfl
    refine ⟨nofun, ?_⟩
    rintro rfl
    cases hhead

theorem nil_of_ok {x : α} (h : StopsAt (.ok x) fs) : fs = [] := h.exists_ok.mp ⟨x, rfl⟩

theorem bind (h : StopsAt r fs) (hf : ∀ x, r = .ok x → StopsAt (f x) gs) :
    StopsAt (r >>= f) (fs ++ gs) := by
  cases r with
  | ok x =>
    rw [h.nil_of_ok]
    exact hf x rfl
  | error e =>
    obtain ⟨rest, rfl⟩ : ∃ rest, fs = e :: rest := List.head?_eq_some_iff.mp ((h e).mp rfl)
    exact error e _

theorem mapM {read : β → Read α} {wrong : β → List AnswerError}
    (h : ∀ x, StopsAt (read x) (wrong x)) (xs : List β) :
    StopsAt (xs.mapM read) (xs.flatMap wrong) := by
  induction xs with
  | nil => exact ok []
  | cons x xs ih =>
    rw [List.mapM_cons, List.flatMap_cons]
    refine (h x).bind fun y _ => ?_
    rw [← List.append_nil (xs.flatMap wrong)]
    exact ih.bind fun ys _ => ok _

end StopsAt

section
variable {α : Type} {field : String} {convert : Value → Option α} {fault : Value → AnswerError}

/-- A required member as a conversion makes it. -/
def requiredAs (convert : Value → Option α) (fault : Value → AnswerError) (d : Dict Value)
    (field : String) : Read α := do
  let v ← required d field
  match convert v with
  | some x => return x
  | none => throw (fault v)

theorem requiredAs_ok {x : α} :
    requiredAs convert fault d field = .ok x ↔ (d.get? field).bind convert = some x := by
  unfold requiredAs required
  cases d.get? field with
  | none => exact ⟨nofun, nofun⟩
  | some v =>
    rw [Result.ok_bind rfl, Option.bind_some]
    cases convert v with
    | none => exact ⟨nofun, nofun⟩
    | some y =>
      change Except.ok y = Except.ok x ↔ some y = some x
      rw [Except.ok.injEq, Option.some.injEq]

theorem requiredAs_stops {k : Kind} (haccepts : ∀ v, k.accepts v = (convert v).isSome)
    (hfault : ∀ v, fault v = k.fault field v) :
    StopsAt (requiredAs convert fault d field) (Member.fault? ⟨field, k⟩ d).toList := by
  unfold requiredAs required Member.fault?
  dsimp only
  cases d.get? field with
  | none => exact .error _ _
  | some v =>
    dsimp only
    rw [Result.ok_bind rfl, haccepts, ← hfault]
    cases convert v with
    | none => exact .error _ _
    | some y => exact .ok y

end

end ShopRelay.Answer
