import ShopRelay.Answer.Tax
import ShopRelay.Proofs.Answer.Members

/-!
The taxes of an answer are read member by member. An answer is accepted exactly when all members
that taxes need are there and usable, and rejected for the first fault otherwise; whatever else it
holds does not count.
-/

namespace ShopRelay.Answer

open Json

/-- The members of a line, in the order in which they are read. -/
def lineMembers : List Member :=
  [⟨"id", .whole⟩, ⟨"currency", .text⟩, ⟨"unit_net_amount", .amount⟩,
    ⟨"unit_gross_amount", .amount⟩, ⟨"total_gross_amount", .amount⟩,
    ⟨"total_net_amount", .amount⟩, ⟨"tax_rate", .amount⟩]

/-- The members beside the lines; they are read after these. -/
def totalMembers : List Member :=
  [⟨"currency", .text⟩, ⟨"total_net_amount", .amount⟩, ⟨"total_gross_amount", .amount⟩,
    ⟨"subtotal_net_amount", .amount⟩, ⟨"subtotal_gross_amount", .amount⟩,
    ⟨"shipping_price_gross_amount", .amount⟩, ⟨"shipping_price_net_amount", .amount⟩,
    ⟨"shipping_tax_rate", .amount⟩]

def LineUsable (v : Value) : Prop := ∃ d, v = .obj d ∧ ∀ m ∈ lineMembers, m.Usable d

def TaxesUsable (v : Value) : Prop :=
  ∃ (d : Dict Value) (ls : List Value), v = .obj d ∧ d.get? "lines" = some (.arr ls) ∧
    (∀ l ∈ ls, LineUsable l) ∧ ∀ m ∈ totalMembers, m.Usable d

def lineFaults : Value → List AnswerError
  | .obj d => faults lineMembers d
  | _ => [.unexpectedShape "a tax line object"]

def linesFaults (d : Dict Value) : List AnswerError :=
  match d.get? "lines" with
  | none => [.missingField "lines"]
  | some (.arr ls) => ls.flatMap lineFaults
  | some _ => [.unexpectedShape "a list of tax lines"]

theorem linesFaults_of_get {d : Dict Value} {ls : List Value}
    (h : d.get? "lines" = some (.arr ls)) : linesFaults d = ls.flatMap lineFaults := by
  rw [linesFaults, h]

/-- All that is wrong with an answer: its shape, its lines one by one, the members beside them. -/
def taxFaults : Value → List AnswerError
  | .obj d => linesFaults d ++ faults totalMembers d
  | _ => [.unexpectedShape "a tax data object"]

/-- Each part of a line is what the member of its name is read as. -/
structure LineOf (v : Value) (l : TaxLine) : Prop where
  id : (v.get? "id").bind toInt? = some l.id
  currency : (v.get? "currency").bind toText? = some l.currency
  unitNetAmount : (v.get? "unit_net_amount").bind toDecimal? = some l.unitNetAmount
  unitGrossAmount : (v.get? "unit_gross_amount").bind toDecimal? = some l.unitGrossAmount
  totalGrossAmount : (v.get? "total_gross_amount").bind toDecimal? = some l.totalGrossAmount
  totalNetAmount : (v.get? "total_net_amount").bind toDecimal? = some l.totalNetAmount
  taxRate : (v.get? "tax_rate").bind toDecimal? = some l.taxRate

structure TaxesOf (v : Value) (t : Taxes) : Prop where
  currency : (v.get? "currency").bind toText? = some t.currency
  totalNetAmount : (v.get? "total_net_amount").bind toDecimal? = some t.totalNetAmount
  totalGrossAmount : (v.get? "total_gross_amount").bind toDecimal? = some t.totalGrossAmount
  subtotalNetAmount : (v.get? "subtotal_net_amount").bind toDecimal? = some t.subtotalNetAmount
  subtotalGrossAmount :
    (v.get? "subtotal_gross_amount").bind toDecimal? = some t.subtotalGrossAmount
  shippingPriceGrossAmount :
    (v.get? "shipping_price_gross_amount").bind toDecimal? = some t.shippingPriceGrossAmount
  shippingPriceNetAmount :
    (v.get? "shipping_price_net_amount").bind toDecimal? = some t.shippingPriceNetAmount
  shippingTaxRate : (v.get? "shipping_tax_rate").bind toDecimal? = some t.shippingTaxRate
  lines : ∃ ls, v.get? "lines" = some (.arr ls) ∧ List.Forall₂ LineOf ls t.lines

/-- Lines with the same members of a line, whatever else they hold. -/
inductive LinesAlike : Value → Value → Prop where
  | same (v : Value) : LinesAlike v v
  | members {d e : Dict Value} (h : ∀ m ∈ lineMembers, d.get? m.field = e.get? m.field) :
    LinesAlike (.obj d) (.obj e)

structure TaxesAlike (d e : Dict Value) : Prop where
  totals : ∀ m ∈ totalMembers, d.get? m.field = e.get? m.field
  lines : d.get? "lines" = e.get? "lines" ∨ ∃ ls ms, d.get? "lines" = some (.arr ls) ∧
    e.get? "lines" = some (.arr ms) ∧ List.Forall₂ LinesAlike ls ms

variable {v w : Value} {d e : Dict Value} {field : String}

theorem requiredText_as :
    requiredText d field = requiredAs toText? (fun _ => .invalidField field) d field := by
  unfold requiredText requiredAs
  cases required d field with
  | error e => rfl
  | ok v =>
    rw [Result.ok_bind rfl, Result.ok_bind rfl]
    cases toText? v <;> rfl

theorem requiredInt_as :
    requiredInt d field = requiredAs toInt? (fun _ => .invalidField field) d field := by
  unfold requiredInt requiredAs
  cases required d field with
  | error e => rfl
  | ok v =>
    rw [Result.ok_bind rfl, Result.ok_bind rfl]
    cases toInt? v <;> rfl

theorem requiredDecimal_as :
    requiredDecimal d field = requiredAs toDecimal? (.invalidDecimal field) d field := by
  unfold requiredDecimal requiredAs
  cases required d field with
  | error e => rfl
  | ok v =>
    rw [Result.ok_bind rfl, Result.ok_bind rfl]
    cases toDecimal? v <;> rfl

theorem requiredText_iff {s : String} :
    requiredText d field = .ok s ↔ (d.get? field).bind toText? = some s := by
  rw [requiredText_as]
  exact requiredAs_ok

theorem requiredInt_iff {n : Int} :
    requiredInt d field = .ok n ↔ (d.get? field).bind toInt? = some n := by
  rw [requiredInt_as]
  exact requiredAs_ok

theorem requiredDecimal_iff {x : Number.Decimal} :
    requiredDecimal d field = .ok x ↔ (d.get? field).bind toDecimal? = some x := by
  rw [requiredDecimal_as]
  exact requiredAs_ok

theorem requiredText_stops (d : Dict Value) (field : String) :
    StopsAt (requiredText d field) (Member.fault? ⟨field, .text⟩ d).toList := by
  rw [requiredText_as]
  exact requiredAs_stops (fun _ => rfl) fun _ => rfl

theorem requiredInt_stops (d : Dict Value) (field : String) :
    StopsAt (requiredInt d field) (Member.fault? ⟨field, .whole⟩ d).toList := by
  rw [requiredInt_as]
  exact requiredAs_stops (fun _ => rfl) fun _ => rfl

theorem requiredDecimal_stops (d : Dict Value) (field : String) :
    StopsAt (requiredDecimal d field) (Member.fault? ⟨field, .amount⟩ d).toList := by
  rw [requiredDecimal_as]
  exact requiredAs_stops (fun _ => rfl) fun _ => rfl

theorem taxLine_ok {l : TaxLine} : taxLine v = .ok l ↔ LineOf v l := by
  constructor
  · intro h
    obtain ⟨d, hd, hline⟩ := Result.bind_ok h
    obtain ⟨id, hid, hline⟩ := Result.bind_ok hline
    obtain ⟨currency, hcurrency, hline⟩ := Result.bind_ok hline
    obtain ⟨unitNet, hunitNet, hline⟩ := Result.bind_ok hline
    obtain ⟨unitGross, hunitGross, hline⟩ := Result.bind_ok hline
    obtain ⟨totalGross, htotalGross, hline⟩ := Result.bind_ok hline
    obtain ⟨totalNet, htotalNet, hline⟩ := Result.bind_ok hline
    obtain ⟨rate, hrate, hline⟩ := Result.bind_ok hline
    obtain rfl := object_ok hd
    obtain rfl := Except.ok.inj hline
    exact ⟨requiredInt_iff.mp hid, requiredText_iff.mp hcurrency, requiredDecimal_iff.mp hunitNet,
      requiredDecimal_iff.mp hunitGross, requiredDecimal_iff.mp htotalGross,
      requiredDecimal_iff.mp htotalNet, requiredDecimal_iff.mp hrate⟩
  · intro h
    cases v with
    | obj d =>
      have hd : object (.obj d) "a tax line object" = .ok d := rfl
      rw [taxLine, Result.ok_bind hd, Result.ok_bind (requiredInt_iff.mpr h.id),
        Result.ok_bind (requiredText_iff.mpr h.currency),
        Result.ok_bind (requiredDecimal_iff.mpr h.unitNetAmount),
        Result.ok_bind (requiredDecimal_iff.mpr h.unitGrossAmount),
        Result.ok_bind (requiredDecimal_iff.mpr h.totalGrossAmount),
        Result.ok_bind (requiredDecimal_iff.mpr h.totalNetAmount),
        Result.ok_bind (requiredDecimal_iff.mpr h.taxRate)]
      rfl
    | _ => cases h.id

theorem taxLine_stops (v : Value) : StopsAt (taxLine v) (lineFaults v) := by
  cases v with
  | obj d =>
    exact (requiredInt_stops d _).bind fun _ _ => (requiredText_stops d _).bind fun _ _ =>
      (requiredDecimal_stops d _).bind fun _ _ => (requiredDecimal_stops d _).bind fun _ _ =>
      (requiredDecimal_stops d _).bind fun _ _ => (requiredDecimal_stops d _).bind fun _ _ =>
      (requiredDecimal_stops d _).bind fun _ _ => .ok _
  | _ => exact .error _ _

def readLines (d : Dict Value) : Read (List TaxLine) := do
  (← items (← required d "lines") "a list of tax lines").mapM taxLine

theorem readLines_ok {lines : List TaxLine} : readLines d = .ok lines ↔
    ∃ ls, d.get? "lines" = some (.arr ls) ∧ List.Forall₂ LineOf ls lines := by
  constructor
  · intro h
    obtain ⟨v, hv, hlines⟩ := Result.bind_ok h
    obtain ⟨ls, hls, hlines⟩ := Result.bind_ok hlines
    obtain rfl := items_ok hls
    exact ⟨ls, required_ok hv, (Result.mapM_eq_ok.mp hlines).imp fun _ _ => taxLine_ok.mp⟩
  · rintro ⟨ls, hget, hlines⟩
    have hrequired : required d "lines" = .ok (.arr ls) := by rw [required, hget]
    rw [readLines, Result.ok_bind hrequired]
    exact Result.mapM_eq_ok.mpr (hlines.imp fun _ _ => taxLine_ok.mpr)

theorem readLines_stops (d : Dict Value) : StopsAt (readLines d) (linesFaults d) := by
  unfold readLines linesFaults required
  cases d.get? "lines" with
  | none => exact .error _ _
  | some v =>
    cases v with
    | arr ls => exact .mapM taxLine_stops ls
    | _ => exact .error _ _

def readTotals (d : Dict Value) (lines : List TaxLine) : Read Taxes := do
  return {
    currency := ← requiredText d "currency"
    totalNetAmount := ← requiredDecimal d "total_net_amount"
    totalGrossAmount := ← requiredDecimal d "total_gross_amount"
    subtotalNetAmount := ← requiredDecimal d "subtotal_net_amount"
    subtotalGrossAmount := ← requiredDecimal d "subtotal_gross_amount"
    shippingPriceGrossAmount := ← requiredDecimal d "shipping_price_gross_amount"
    shippingPriceNetAmount := ← requiredDecimal d "shipping_price_net_amount"
    shippingTaxRate := ← requiredDecimal d "shipping_tax_rate"
    lines }

theorem readTotals_stops (d : Dict Value) (lines : List TaxLine) :
    StopsAt (readTotals d lines) (faults totalMembers d) :=
  (requiredText_stops d _).bind fun _ _ => (requiredDecimal_stops d _).bind fun _ _ =>
    (requiredDecimal_stops d _).bind fun _ _ => (requiredDecimal_stops d _).bind fun _ _ =>
    (requiredDecimal_stops d _).bind fun _ _ => (requiredDecimal_stops d _).bind fun _ _ =>
    (requiredDecimal_stops d _).bind fun _ _ => (requiredDecimal_stops d _).bind fun _ _ => .ok _

/-- All lines are read before anything beside them. -/
theorem readTaxes_obj (d : Dict Value) : readTaxes (.obj d) = readLines d >>= readTotals d := by
  unfold readTaxes readLines
  rw [Result.ok_bind (x := object (.obj d) _) rfl]
  simp only [bind_assoc]
  rfl

theorem readTaxes_stops (v : Value) : StopsAt (readTaxes v) (taxFaults v) := by
  cases v with
  | obj d =>
    rw [readTaxes_obj]
    exact (readLines_stops d).bind fun lines _ => readTotals_stops d lines
  | _ => exact .error _ _

theorem readTaxes_ok {t : Taxes} : readTaxes v = .ok t ↔ TaxesOf v t := by
  constructor
  · intro h
    cases v with
    | obj d =>
      rw [readTaxes_obj] at h
      obtain ⟨lines, hlines, htaxes⟩ := Result.bind_ok h
      obtain ⟨currency, hcurrency, htaxes⟩ := Result.bind_ok htaxes
      obtain ⟨totalNet, htotalNet, htaxes⟩ := Result.bind_ok htaxes
      obtain ⟨totalGross, htotalGross, htaxes⟩ := Result.bind_ok htaxes
      obtain ⟨subtotalNet, hsubtotalNet, htaxes⟩ := Result.bind_ok htaxes
      obtain ⟨subtotalGross, hsubtotalGross, htaxes⟩ := Result.bind_ok htaxes
      obtain ⟨shippingGross, hshippingGross, htaxes⟩ := Result.bind_ok htaxes
      obtain ⟨shippingNet, hshippingNet, htaxes⟩ := Result.bind_ok htaxes
      obtain ⟨rate, hrate, htaxes⟩ := Result.bind_ok htaxes
      obtain rfl := Except.ok.inj htaxes
      exact ⟨requiredText_iff.mp hcurrency, requiredDecimal_iff.mp htotalNet,
        requiredDecimal_iff.mp htotalGross, requiredDecimal_iff.mp hsubtotalNet,
        requiredDecimal_iff.mp hsubtotalGross, requiredDecimal_iff.mp hshippingGross,
        requiredDecimal_iff.mp hshippingNet, requiredDecimal_iff.mp hrate,
        readLines_ok.mp hlines⟩
    | _ => cases h
  · intro h
    cases v with
    | obj d =>
      rw [readTaxes_obj, Result.ok_bind (readLines_ok.mpr h.lines), readTotals,
        Result.ok_bind (requiredText_iff.mpr h.currency),
        Result.ok_bind (requiredDecimal_iff.mpr h.totalNetAmount),
        Result.ok_bind (requiredDecimal_iff.mpr h.totalGrossAmount),
        Result.ok_bind (requiredDecimal_iff.mpr h.subtotalNetAmount),
        Result.ok_bind (requiredDecimal_iff.mpr h.subtotalGrossAmount),
        Result.ok_bind (requiredDecimal_iff.mpr h.shippingPriceGrossAmount),
        Result.ok_bind (requiredDecimal_iff.mpr h.shippingPriceNetAmount),
        Result.ok_bind (requiredDecimal_iff.mpr h.shippingTaxRate)]
      rfl
    | _ => cases h.currency

theorem lineFaults_eq_nil : lineFaults v = [] ↔ LineUsable v := by
  unfold LineUsable
  cases v with
  | obj d =>
    rw [lineFaults, faults_eq_nil]
    exact ⟨fun h => ⟨d, rfl, h⟩, fun ⟨_, heq, h⟩ => Value.obj.inj heq ▸ h⟩
  | _ => exact ⟨nofun, nofun⟩

theorem linesFaults_eq_nil : linesFaults d = [] ↔
    ∃ ls, d.get? "lines" = some (.arr ls) ∧ ∀ l ∈ ls, LineUsable l := by
  unfold linesFaults
  cases d.get? "lines" with
  | none => exact ⟨nofun, nofun⟩
  | some v =>
    cases v with
    | arr ls =>
      simp only [List.flatMap_eq_nil_iff, lineFaults_eq_nil]
      exact ⟨fun h => ⟨ls, rfl, h⟩, fun ⟨_, heq, h⟩ => Value.arr.inj (Option.some.inj heq) ▸ h⟩
    | _ => exact ⟨nofun, nofun⟩

theorem taxFaults_eq_nil : taxFaults v = [] ↔ TaxesUsable v := by
  unfold TaxesUsable
  cases v with
  | obj d =>
    rw [taxFaults, List.append_eq_nil_iff, linesFaults_eq_nil, faults_eq_nil]
    constructor
    · rintro ⟨⟨ls, hls, hlines⟩, htotals⟩
      exact ⟨d, ls, rfl, hls, hlines, htotals⟩
    · rintro ⟨_, ls, heq, hls, hlines, htotals⟩
      obtain rfl := Value.obj.inj heq
      exact ⟨⟨ls, hls, hlines⟩, htotals⟩
  | _ => exact ⟨nofun, nofun⟩

theorem required_congr {ms : List Member} (h : ∀ m ∈ ms, d.get? m.field = e.get? m.field)
    (hfield : field ∈ ms.map Member.field) : required d field = required e field := by
  obtain ⟨m, hm, rfl⟩ := List.mem_map.mp hfield
  rw [required, required, h m hm]

theorem LinesAlike.taxLine_eq (h : LinesAlike v w) : taxLine v = taxLine w := by
  cases h with
  | same => rfl
  | @members d e h =>
    have hrequired (field : String) (hfield : field ∈ lineMembers.map Member.field) :
        required d field = required e field := required_congr h hfield
    unfold taxLine requiredInt requiredText requiredDecimal
    rw [Result.ok_bind (x := object (.obj d) _) rfl, Result.ok_bind (x := object (.obj e) _) rfl,
      hrequired "id" (by decide), hrequired "currency" (by decide),
      hrequired "unit_net_amount" (by decide), hrequired "unit_gross_amount" (by decide),
      hrequired "total_gross_amount" (by decide), hrequired "total_net_amount" (by decide),
      hrequired "tax_rate" (by decide)]

theorem TaxesAlike.readLines_eq (h : TaxesAlike d e) : readLines d = readLines e := by
  unfold readLines required
  rcases h.lines with heq | ⟨ls, ms, hls, hms, halike⟩
  · rw [heq]
  · rw [hls, hms]
    change ls.mapM taxLine = ms.mapM taxLine
    clear hls hms
    induction halike with
    | nil => rfl
    | cons hfirst _ ih => rw [List.mapM_cons, List.mapM_cons, hfirst.taxLine_eq, ih]

theorem TaxesAlike.readTotals_eq (h : TaxesAlike d e) (lines : List TaxLine) :
    readTotals d lines = readTotals e lines := by
  have hrequired (field : String) (hfield : field ∈ totalMembers.map Member.field) :
      required d field = required e field := required_congr h.totals hfield
  unfold readTotals requiredText requiredDecimal
  rw [hrequired "currency" (by decide), hrequired "total_net_amount" (by decide),
    hrequired "total_gross_amount" (by decide), hrequired "subtotal_net_amount" (by decide),
    hrequired "subtotal_gross_amount" (by decide),
    hrequired "shipping_price_gross_amount" (by decide),
    hrequired "shipping_price_net_amount" (by decide), hrequired "shipping_tax_rate" (by decide)]

theorem TaxesAlike.readTaxes_eq (h : TaxesAlike d e) : readTaxes (.obj d) = readTaxes (.obj e) := by
  rw [readTaxes_obj, readTaxes_obj, h.readLines_eq, funext h.readTotals_eq]

theorem usable_of_ok {t : Taxes} (h : readTaxes (.obj d) = .ok t) :
    linesFaults d = [] ∧ faults totalMembers d = [] := by
  have hnone : taxFaults (.obj d) = [] := (readTaxes_stops (.obj d)).exists_ok.mp ⟨t, h⟩
  exact List.append_eq_nil_iff.mp hnone

/-- An answer that was accepted is rejected for whatever member is taken from it. -/
theorem readTaxes_erase {t : Taxes} (h : readTaxes (.obj d) = .ok t)
    (hfield : field ∈ "lines" :: totalMembers.map Member.field) :
    readTaxes (.obj (Dict.erase d field)) = .error (.missingField field) := by
  obtain ⟨hlines, htotals⟩ := usable_of_ok h
  rw [readTaxes_stops, taxFaults]
  by_cases heq : field = "lines"
  · have hmissing : linesFaults (Dict.erase d field) = [.missingField field] := by
      rw [linesFaults, heq, Dict.get_erase_self]
    rw [hmissing]
    rfl
  · have hkept : linesFaults (Dict.erase d field) = linesFaults d := by
      rw [linesFaults, linesFaults, Dict.get_erase_other (Ne.symm heq)]
    rw [hkept, hlines, faults_erase (by decide) (faults_eq_nil.mp htotals)
      ((List.mem_cons.mp hfield).resolve_left heq)]
    rfl

/-- The same for a member of any line. -/
theorem readTaxes_erase_line {t : Taxes} {before after : List Value} {l : Dict Value} {m : Member}
    (h : readTaxes (.obj d) = .ok t)
    (hlines : d.get? "lines" = some (.arr (before ++ .obj l :: after))) (hm : m ∈ lineMembers) :
    readTaxes (.obj (Dict.insert "lines"
      (.arr (before ++ .obj (Dict.erase l m.field) :: after)) d)) =
        .error (.missingField m.field) := by
  obtain ⟨hnone, -⟩ := usable_of_ok h
  rw [linesFaults_of_get hlines, List.flatMap_append, List.flatMap_cons,
    List.append_eq_nil_iff, List.append_eq_nil_iff] at hnone
  obtain ⟨hbefore, hl, -⟩ := hnone
  have hmissing : lineFaults (.obj (Dict.erase l m.field)) = [.missingField m.field] :=
    faults_erase (by decide) (faults_eq_nil.mp hl) (List.mem_map_of_mem hm)
  have hget := (Dict.get_insert d "lines" "lines"
    (.arr (before ++ .obj (Dict.erase l m.field) :: after))).trans (if_pos rfl)
  rw [readTaxes_stops, taxFaults, linesFaults_of_get hget, List.flatMap_append, List.flatMap_cons,
    hbefore, hmissing]
  rfl

/-- Taxes are read from the members that they name and from nothing else. An answer is accepted
exactly when all of these are there and usable, at the top and in every line, and what is read is
what they hold. Otherwise it is rejected for the first fault: its shape, its lines one after the
other, then the members beside them. Without any one of its members an answer that was accepted is
rejected for that member. -/
theorem taxes_read_member_by_member (v : Value) :
    ((∃ t, readTaxes v = .ok t) ↔ TaxesUsable v) ∧
    (∀ t, readTaxes v = .ok t ↔ TaxesOf v t) ∧
    (∀ e, readTaxes v = .error e ↔ (taxFaults v).head? = some e) ∧
    ∀ d, v = .obj d →
      (∀ e, TaxesAlike d e → readTaxes (.obj e) = readTaxes v) ∧
      ∀ t, readTaxes v = .ok t →
        (∀ field ∈ "lines" :: totalMembers.map Member.field,
          readTaxes (.obj (Dict.erase d field)) = .error (.missingField field)) ∧
        ∀ before l after, Dict.get? d "lines" = some (.arr (before ++ .obj l :: after)) →
          ∀ m ∈ lineMembers, readTaxes (.obj (Dict.insert "lines"
            (.arr (before ++ .obj (Dict.erase l m.field) :: after)) d)) =
              .error (.missingField m.field) := by
  refine ⟨(readTaxes_stops v).exists_ok.trans taxFaults_eq_nil, fun t => readTaxes_ok,
    readTaxes_stops v, ?_⟩
  rintro d rfl
  refine ⟨fun e h => h.readTaxes_eq.symm, fun t ht => ⟨fun field => readTaxes_erase ht, ?_⟩⟩
  exact fun before l after hlines m => readTaxes_erase_line ht hlines

namespace Sample

def taxLine (id rate : Int) : Dict Value :=
  [("currency", .str "EUR"), ("id", .int id), ("tax_rate", .int rate),
    ("total_gross_amount", .str "24.60"), ("total_net_amount", .str "20"),
    ("unit_gross_amount", .str "12.30"), ("unit_net_amount", .str "10")]

/-- Two lines, amounts as numbers and as strings, and a member that is not needed. -/
def taxes : Dict Value :=
  [("currency", .str "EUR"), ("lines", .arr [.obj (taxLine 1 23), .obj (taxLine 2 8)]),
    ("note", .null), ("shipping_price_gross_amount", .int 5),
    ("shipping_price_net_amount", .str "4.20"), ("shipping_tax_rate", .str " 19 "),
    ("subtotal_gross_amount", .str "49.20"), ("subtotal_net_amount", .int 40),
    ("total_gross_amount", .str "54.20"), ("total_net_amount", .str "44.20")]

end Sample

theorem taxes_of_two_lines :
    (∃ t, readTaxes (.obj Sample.taxes) = .ok t ∧ TaxesOf (.obj Sample.taxes) t) ∧
    readTaxes (.obj (Dict.erase Sample.taxes "note")) = readTaxes (.obj Sample.taxes) ∧
    readTaxes (.obj (Dict.erase Sample.taxes "lines")) = .error (.missingField "lines") ∧
    readTaxes (.obj (Dict.insert "lines" (.arr [.obj (Sample.taxLine 1 23),
      .obj (Dict.erase (Sample.taxLine 2 8) "tax_rate")]) Sample.taxes)) =
        .error (.missingField "tax_rate") := by
  have hread : (readTaxes (.obj Sample.taxes)).isOk = true := by decide +kernel
  have hnote : ∀ m ∈ totalMembers, m.field ≠ "note" := by decide
  obtain ⟨-, reads, -, parts⟩ := taxes_read_member_by_member (.obj Sample.taxes)
  cases h : readTaxes (.obj Sample.taxes) with
  | error e =>
    rw [h] at hread
    cases hread
  | ok t =>
    obtain ⟨other, missing⟩ := parts Sample.taxes rfl
    obtain ⟨top, lines⟩ := missing t h
    refine ⟨⟨t, rfl, (reads t).mp h⟩, ?_, top "lines" (by decide), ?_⟩
    · rw [← h]
      exact other _ ⟨fun m hm => (Dict.get_erase_other (hnote m hm) _).symm, .inl rfl⟩
    · exact lines [.obj (Sample.taxLine 1 23)] (Sample.taxLine 2 8) [] rfl ⟨"tax_rate", .amount⟩
        (by simp [lineMembers])

end ShopRelay.Answer
