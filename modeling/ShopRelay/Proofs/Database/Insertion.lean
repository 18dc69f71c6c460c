import ShopRelay.Proofs.Database.Events

/-!
Storing an event as a whole: the statements of its transaction in their order, up to the first that
fails, with the values of its payload and the columns of its deliveries, which line up.
-/

namespace ShopRelay.Database

variable {p : Payload} {ds : List Delivery} {es : List session.Exchange}
  {y : Except Fault (Payload × List Delivery)}

/-- Whether a call was answered without an error. -/
def acknowledged (e : session.Exchange) : Bool := Except.isOk (e.reply : Except String e.call.Answer)

/-- What is asked to store an event when nothing fails. -/
def insertion (p : Payload) (ds : List Delivery) : List Call :=
  [.begin, .execute (insertPayloadRow p)] ++
    (if ds = [] then [] else [.execute (insertDeliveryRows ds)]) ++ [.commit]

/-- How far the calls for an event get. After a call that fails nothing is asked but to undo what
was begun. -/
inductive Advances (p : Payload) (ds : List Delivery) :
    List session.Exchange → Except Fault (Payload × List Delivery) → Prop where
  | whole {es : List session.Exchange} (calls : es.map (·.call) = insertion p ds)
      (acks : ∀ e ∈ es, acknowledged e = true) : Advances p ds es (.ok (p, ds))
  | stopped {before after : List session.Exchange} {last : session.Exchange}
      (calls : before.map (·.call) ++ [last.call] <+: insertion p ds)
      (acks : ∀ e ∈ before, acknowledged e = true) (failed : acknowledged last = false)
      (undoing : after.map (·.call) = if before = [] then [] else [.rollback]) (f : Fault) :
    Advances p ds (before ++ last :: after) (.error f)

/-- The exchanges up to the commit, all of them acknowledged. -/
def opened (p : Payload) (ds : List Delivery) (x x' : Outcome) : List session.Exchange :=
  begun (.ok ()) :: inserted p ds x x'

theorem opened_calls (p : Payload) (ds : List Delivery) (x x' : Outcome) :
    (opened p ds x x').map (·.call) ++ [.commit] = insertion p ds := by
  cases ds with
  | nil => rfl
  | cons d ds => rfl

theorem opened_acknowledged (p : Payload) (ds : List Delivery) (x x' : Outcome) :
    ∀ e ∈ opened p ds x x', acknowledged e = true := by
  have hall : (opened p ds x x').all acknowledged = true := by
    cases ds with
    | nil => rfl
    | cons d ds => rfl
  exact List.all_eq_true.mp hall

theorem advances_insertEvent (h : (storeCall (.insertEvent p ds)).Passes es y) :
    Advances p ds es y := by
  cases passes_transaction h with
  | unbegun text =>
    have hcalls : [(begun (.error text)).call] <+: insertion p ds := ⟨_, rfl⟩
    exact @Advances.stopped p ds [] [] (begun (.error text)) hcalls nofun rfl rfl _
  | failed body x =>
    cases passes_inserts body with
    | payloadRefused text =>
      have hacks : ∀ e ∈ [begun (.ok ())], acknowledged e = true := List.all_eq_true.mp rfl
      exact Advances.stopped ⟨_, rfl⟩ hacks rfl rfl _
    | deliveriesRefused filled x' text =>
      have hcalls : insertion p ds = [.begin, .execute (insertPayloadRow p),
          .execute (insertDeliveryRows ds), .commit] := by
        rw [insertion, if_neg filled]
        rfl
      have hacks : ∀ e ∈ [begun (.ok ()), executed (insertPayloadRow p) (.ok x')],
          acknowledged e = true := List.all_eq_true.mp rfl
      refine Advances.stopped ⟨[.commit], ?_⟩ hacks rfl rfl _
      rw [hcalls]
      rfl
  | uncommitted body text x =>
    cases passes_inserts body with
    | all x₁ x₂ =>
      have hcalls : (opened p ds x₁ x₂).map (·.call) ++ [(ended (.error text)).call] <+:
          insertion p ds := ⟨[], by rw [List.append_nil]; exact opened_calls p ds x₁ x₂⟩
      exact Advances.stopped hcalls (opened_acknowledged p ds x₁ x₂) rfl rfl _
  | committed body =>
    cases passes_inserts body with
    | all x₁ x₂ =>
      refine .whole ?_ fun e he => ?_
      · exact List.map_append.trans (opened_calls p ds x₁ x₂)
      · rcases List.mem_append.mp he with hopen | hlast
        · exact opened_acknowledged p ds x₁ x₂ e hopen
        · rw [List.mem_singleton.mp hlast]
          rfl

/-- The calls end with a result exactly when all of them are acknowledged. -/
theorem Advances.ok_iff (h : Advances p ds es y) :
    y = .ok (p, ds) ↔ ∀ e ∈ es, acknowledged e = true := by
  cases h with
  | whole calls acks => exact iff_of_true rfl acks
  | stopped calls acks failed undoing f =>
    refine iff_of_false nofun fun hall => ?_
    rw [hall _ (List.mem_append_right _ List.mem_cons_self)] at failed
    cases failed

/-- The members of a cell that holds a list. -/
def Cell.elements : Cell → List Cell
  | .uuids ids => ids.map .uuid
  | .texts ss => ss.map .text
  | .times ts => ts.map .time
  | _ => []

/-- The rows that a statement unnests from lists, one for each column. The longest list says how
many, and nothing stands where another one has ended. -/
def unnest (names : List String) (lists : List (List Cell)) : List Row :=
  (List.range ((lists.map List.length).foldr max 0)).map fun i =>
    names.zip (lists.map fun cells => cells[i]?.getD .null)

/-- The columns of a delivery, in the order of the statement. -/
def deliveryColumns : List (String × (Delivery → Cell)) :=
  [("id", fun d => .uuid d.id), ("status", fun d => .text d.status.name),
    ("event_type", fun d => .text d.eventType), ("payload_id", fun d => .uuid d.payloadId),
    ("webhook_id", fun d => .uuid d.webhookId), ("created_at", fun d => .time d.createdAt)]

def deliveryRow (d : Delivery) : Row := deliveryColumns.map fun c => (c.1, c.2 d)

theorem deliveryOfRow_deliveryRow (d : Delivery) : deliveryOfRow (deliveryRow d) = .ok d := by
  obtain ⟨id, status, eventType, payloadId, webhookId, createdAt⟩ := d
  cases status <;> rfl

theorem insertDeliveryRows_text (ds : List Delivery) :
    (insertDeliveryRows ds).text = "INSERT INTO webhook_event_delivery ( " ++
      ", ".intercalate (deliveryColumns.map (·.1)) ++ " ) SELECT * FROM UNNEST( $1::uuid[], " ++
      "$2::text[], $3::text[], $4::uuid[], $5::uuid[], $6::timestamptz[] )" := by
  change (insertDeliveryRows []).text = _
  decide +kernel

theorem insertDeliveryRows_elements (ds : List Delivery) :
    (insertDeliveryRows ds).parameters.map Cell.elements =
      deliveryColumns.map fun c => ds.map c.2 := by
  change [_, _, _, _, _, _] = [_, _, _, _, _, _]
  simp only [Cell.elements, List.map_map, Function.comp_def]

theorem longest_columns {columns : List (String × (Delivery → Cell))} (h : columns ≠ [])
    (ds : List Delivery) :
    ((columns.map fun c => ds.map c.2).map List.length).foldr max 0 = ds.length := by
  induction columns with
  | nil => exact absurd rfl h
  | cons c columns ih =>
    simp only [List.map_cons, List.foldr_cons, List.length_map]
    cases columns with
    | nil => exact Nat.max_zero _
    | cons c' columns => rw [ih (List.cons_ne_nil c' columns), Nat.max_self]

/-- Lists of the columns of all deliveries unnest to a row for each delivery. -/
theorem unnest_columns {columns : List (String × (Delivery → Cell))} (h : columns ≠ [])
    (ds : List Delivery) :
    unnest (columns.map (·.1)) (columns.map fun c => ds.map c.2) =
      ds.map fun d => columns.map fun c => (c.1, c.2 d) := by
  refine List.ext_getElem? fun i => ?_
  simp only [unnest, longest_columns h, List.getElem?_map]
  by_cases hi : i < ds.length
  · simp only [List.getElem?_range hi, List.getElem?_eq_getElem hi, Option.map_some, List.map_map,
      Function.comp_def, List.getElem?_map, Option.getD_some, List.zip_map']
  · rw [List.getElem?_eq_none (by simpa using hi), List.getElem?_eq_none (Nat.le_of_not_lt hi)]
    rfl

/-- The values that are bound to a statement hold a payload, and read back as it. -/
structure Holds (s : Statement) (p : Payload) : Prop where
  text : s.text =
    "INSERT INTO webhook_event_payload (id, payload, created_at) VALUES ($1, $2, $3)"
  values : s.parameters = [.uuid p.id, .text p.text, .time p.createdAt]
  readBack : payloadOfRow (["id", "payload", "created_at"].zip s.parameters) = .ok p

theorem insertPayloadRow_holds (p : Payload) : Holds (insertPayloadRow p) p := ⟨rfl, rfl, rfl⟩

/-- The lists that are bound to a statement hold some deliveries, position by position, and read
back as these. -/
structure Lined (s : Statement) (ds : List Delivery) : Prop where
  names : s.text = "INSERT INTO webhook_event_delivery ( " ++
    ", ".intercalate (deliveryColumns.map (·.1)) ++ " ) SELECT * FROM UNNEST( $1::uuid[], " ++
    "$2::text[], $3::text[], $4::uuid[], $5::uuid[], $6::timestamptz[] )"
  count : s.parameters.length = 6
  lengths : ∀ c ∈ s.parameters, c.elements.length = ds.length
  positions : ∀ (i : Nat) (d : Delivery), ds[i]? = some d →
    s.parameters.map (fun c => c.elements[i]?) = deliveryColumns.map fun c => some (c.2 d)
  unnested : (unnest (deliveryColumns.map (·.1)) (s.parameters.map Cell.elements)).mapM
    deliveryOfRow = .ok ds

theorem insertDeliveryRows_lined (ds : List Delivery) : Lined (insertDeliveryRows ds) ds where
  names := insertDeliveryRows_text ds
  count := rfl
  lengths c hc := by
    have hmem : c.elements ∈ (insertDeliveryRows ds).parameters.map Cell.elements :=
      List.mem_map_of_mem hc
    rw [insertDeliveryRows_elements] at hmem
    obtain ⟨c', -, hc'⟩ := List.mem_map.mp hmem
    rw [← hc', List.length_map]
  positions i d hd := by
    have helements := congrArg (List.map (·[i]?)) (insertDeliveryRows_elements ds)
    simpa only [List.map_map, Function.comp_def, List.getElem?_map, hd, Option.map_some]
      using helements
  unnested := by
    have hsome : deliveryColumns ≠ [] := List.cons_ne_nil _ _
    rw [insertDeliveryRows_elements, unnest_columns hsome]
    exact Result.mapM_map deliveryOfRow_deliveryRow ds

/-- An event is stored by its statements in their order, none of them after one that failed, and
with success exactly when all are acknowledged. What is bound is the payload, and lists that line
up for its deliveries. -/
theorem event_stored_in_order {σ : Type} (reply : (c : session.Call) → σ → session.Reply c × σ)
    (s : σ) (p : Payload) (ds : List Delivery) :
    let es := (storeCall (.insertEvent p ds)).attempt.log reply s
    let y := ((storeCall (.insertEvent p ds)).attempt.run reply s).1
    Advances p ds es y ∧ (y = .ok (p, ds) ↔ ∀ e ∈ es, acknowledged e = true) ∧
      Holds (insertPayloadRow p) p ∧ Lined (insertDeliveryRows ds) ds := by
  intro es y
  have hadvances : Advances p ds es y :=
    advances_insertEvent (Program.passes_run reply (storeCall (.insertEvent p ds)).attempt s)
  exact ⟨hadvances, hadvances.ok_iff, insertPayloadRow_holds p, insertDeliveryRows_lined ds⟩

end ShopRelay.Database
