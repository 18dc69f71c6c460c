import ShopRelay.Answer.Payment
import ShopRelay.Answer.Shipping
import ShopRelay.Proofs.AppScoped
import ShopRelay.Proofs.Result

/-!
The ids of what apps offer. An id that is handed out leads back to the app and to the entry of its
answer, as long as the entry's own id is one that can be found again.
-/

namespace ShopRelay.Answer

open Json
open AppScoped (Resolvable toPaymentId toShippingId ofPaymentId? ofShippingId?)
open Text (isInt64)

variable {app : App} {v : Value}

/-- The id that an entry of an answer gives: a text, or a number by its JSON text. -/
def entryId? (v : Value) : Option String := (v.get? "id").bind toText?

/-- The same, when it is not empty. -/
def offeredId? (v : Value) : Option String := nonEmpty (entryId? v)

theorem object_ok {expected : String} {d : Dict Value} (h : object v expected = .ok d) :
    v = .obj d := by
  cases v with
  | obj members => cases h; rfl
  | _ => cases h

theorem items_ok {expected : String} {vs : List Value} (h : items v expected = .ok vs) :
    v = .arr vs := by
  cases v with
  | arr items => cases h; rfl
  | _ => cases h

theorem required_ok {d : Dict Value} {field : String} {w : Value} (h : required d field = .ok w) :
    d.get? field = some w := by
  unfold required at h
  cases hw : d.get? field with
  | none => rw [hw] at h; cases h
  | some u =>
    rw [hw] at h
    obtain rfl := Except.ok.inj h
    rfl

theorem requiredText_ok {d : Dict Value} {field s : String} (h : requiredText d field = .ok s) :
    optionalText d field = some s := by
  obtain ⟨w, hw, hs⟩ := Result.bind_ok h
  rw [optionalText, required_ok hw, Option.bind_some]
  split at hs
  · next htext =>
    obtain rfl := Except.ok.inj hs
    exact htext
  · cases hs

/-- An entry without an id yields no gateway, any other one under its composed id. -/
theorem gateway_id {g : Option PaymentGateway} (h : gateway? app v = .ok g) :
    g.map (·.id) = (offeredId? v).map (toPaymentId app) := by
  obtain ⟨d, hd, hrest⟩ := Result.bind_ok h
  obtain rfl := object_ok hd
  have hid : offeredId? (.obj d) = nonEmpty (optionalText d "id") := rfl
  rw [hid]
  split at hrest
  · next hnone =>
    obtain rfl := Except.ok.inj hrest
    rw [hnone]
    rfl
  · next id hsome =>
    obtain rfl := Except.ok.inj hrest
    rw [hsome]
    rfl

theorem shippingMethod_id {m : ShippingMethod} (h : shippingMethod app v = .ok m) :
    ∃ id, entryId? v = some id ∧ m.id = toShippingId app id := by
  obtain ⟨d, hd, hrest⟩ := Result.bind_ok h
  obtain ⟨id, hid, hrest⟩ := Result.bind_ok hrest
  obtain ⟨amount, -, hrest⟩ := Result.bind_ok hrest
  obtain ⟨currency, -, hrest⟩ := Result.bind_ok hrest
  obtain rfl := object_ok hd
  obtain rfl := Except.ok.inj hrest
  exact ⟨id, requiredText_ok hid, rfl⟩

theorem offeredId_ne {id : String} (h : offeredId? v = some id) : id ≠ "" := by
  have hfilled := (Option.filter_eq_some_iff.mp h).2
  simpa using hfilled

theorem readGateways_ids {gs : List PaymentGateway} (h : readGateways v app = .ok gs) :
    ∃ entries, v = .arr entries ∧
      List.Forall₂ (fun id g => id ≠ "" ∧ g.id = toPaymentId app id)
        (entries.filterMap offeredId?) gs := by
  obtain ⟨entries, hentries, hrest⟩ := Result.bind_ok h
  obtain ⟨rs, hread, hgs⟩ := Result.bind_ok hrest
  obtain rfl := Except.ok.inj hgs
  refine ⟨entries, items_ok hentries, ?_⟩
  have hids := Result.forall₂_of_mapM hread
  clear h hentries hrest hread hgs
  induction hids with
  | nil => exact .nil
  | @cons e g entries rs hfirst _ ih =>
    have hid := gateway_id hfirst
    cases hentry : offeredId? e with
    | none =>
      rw [hentry, Option.map_none, Option.map_eq_none_iff] at hid
      rw [List.filterMap_cons_none hentry, List.filterMap_cons_none hid]
      exact ih
    | some id =>
      rw [hentry, Option.map_some] at hid
      obtain ⟨g, rfl, hg⟩ := Option.map_eq_some_iff.mp hid
      rw [List.filterMap_cons_some hentry]
      exact .cons ⟨offeredId_ne hentry, hg⟩ ih

theorem readShippingMethods_ids {ms : List ShippingMethod}
    (h : readShippingMethods v app = .ok ms) : ∃ entries, v = .arr entries ∧
      List.Forall₂ (fun e m => ∃ id, entryId? e = some id ∧ m.id = toShippingId app id)
        entries ms := by
  obtain ⟨entries, hentries, hread⟩ := Result.bind_ok h
  exact ⟨entries, items_ok hentries,
    (Result.forall₂_of_mapM hread).imp fun _ _ => shippingMethod_id⟩

/-- What an app offers has the ids that the entries of its answer give, composed with the id of the
app. An id leads back to both, unless the entry's own id has a colon in it or, with shipping, is
empty: then it leads nowhere. -/
theorem offered_ids_lead_back_unless_divided (inRange : isInt64 app.id = true) (v : Value) :
    (∀ gs, readGateways v app = .ok gs → ∃ entries, v = .arr entries ∧
      List.Forall₂ (fun id (g : PaymentGateway) => (ofPaymentId? g.id).toOption =
        if ':' ∉ id.toList then some ⟨app.id, id⟩ else none) (entries.filterMap offeredId?) gs) ∧
    ∀ ms, readShippingMethods v app = .ok ms → ∃ entries, v = .arr entries ∧
      List.Forall₂ (fun e (m : ShippingMethod) => ∃ id, entryId? e = some id ∧
        (ofShippingId? m.id).toOption =
          if id ≠ "" ∧ ':' ∉ id.toList then some ⟨app.id, id⟩ else none) entries ms := by
  refine ⟨fun gs h => ?_, fun ms h => ?_⟩
  · obtain ⟨entries, hv, hids⟩ := readGateways_ids h
    refine ⟨entries, hv, hids.imp fun id g hg => ?_⟩
    obtain ⟨hfilled, hcomposed⟩ := hg
    rw [hcomposed, AppScoped.ofPaymentId_toPaymentId inRange]
    simp [Resolvable, hfilled]
  · obtain ⟨entries, hv, hids⟩ := readShippingMethods_ids h
    refine ⟨entries, hv, hids.imp fun e m hm => ?_⟩
    obtain ⟨id, hid, hcomposed⟩ := hm
    rw [hcomposed]
    exact ⟨id, hid, AppScoped.ofShippingId_toShippingId inRange id⟩

namespace Sample

def shop : App := ⟨7, "acme.app", "Acme", true, []⟩

/-- Gateways of which one has no id and one has a number for its id. -/
def gateways : Value :=
  .arr [.obj [("id", .str "stripe")], .obj [], .obj [("id", .int (-3))]]

/-- A gateway with a colon in its id. -/
def dividedGateway : Value := .arr [.obj [("id", .str "acme:card")]]

/-- A shipping method with an empty id. -/
def namelessMethod : Value :=
  .arr [.obj [("amount", .int 10), ("currency", .str "EUR"), ("id", .str "")]]

end Sample

open Sample

theorem offered_ids_lead_back_unless_divided_plain :
    isInt64 shop.id = true ∧ ∃ gs, readGateways Sample.gateways shop = .ok gs ∧
      gs.map (fun g => (ofPaymentId? g.id).toOption) =
        [some ⟨7, "stripe"⟩, some ⟨7, "-3"⟩] := by
  have inRange : isInt64 shop.id = true := by decide
  obtain ⟨gs, hgs⟩ : ∃ gs, readGateways Sample.gateways shop = .ok gs := by
    have hread : (readGateways Sample.gateways shop).isOk = true := by decide +kernel
    cases h : readGateways Sample.gateways shop with
    | ok gs => exact ⟨gs, rfl⟩
    | error e => rw [h] at hread; cases hread
  obtain ⟨entries, hentries, hids⟩ :=
    (offered_ids_lead_back_unless_divided inRange Sample.gateways).1 gs hgs
  obtain rfl := Value.arr.inj hentries
  have hoffered : [Value.obj [("id", .str "stripe")], .obj [], .obj [("id", .int (-3))]].filterMap
      offeredId? = ["stripe", "-3"] := by decide +kernel
  rw [hoffered] at hids
  refine ⟨inRange, gs, hgs, ?_⟩
  cases hids with
  | cons hfirst hrest =>
    cases hrest with
    | cons hsecond hend =>
      cases hend
      rw [if_pos (by decide)] at hfirst hsecond
      rw [List.map_cons, List.map_cons, List.map_nil, hfirst, hsecond]
      rfl

/-- Ids are handed out that lead nowhere. -/
theorem divided_ids_lead_nowhere :
    (readGateways dividedGateway shop).toOption.map (·.map (·.id)) = some ["app:7:acme:card"] ∧
      (ofPaymentId? "app:7:acme:card").toOption = none ∧
      (readShippingMethods namelessMethod shop).toOption.map (·.map (·.id)) = some ["YXBwOjc6"] ∧
      (ofShippingId? "YXBwOjc6").toOption = none := by
  decide +kernel

end ShopRelay.Answer
