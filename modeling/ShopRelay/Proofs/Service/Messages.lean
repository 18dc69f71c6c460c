import ShopRelay.Proofs.Json.RoundTrip
import ShopRelay.Proofs.Program
import ShopRelay.Proofs.Uuid
import ShopRelay.Service.Bus

/-!
Announcing deliveries on the bus: in order, one message for each, up to the first one that fails.
Each message reads back as the delivery that it announces.
-/

namespace ShopRelay.Service

open Json

theorem ScheduledDelivery.codec_write (x : ScheduledDelivery) : codec.write x =
    .obj [("delivery_id", .str x.deliveryId.text), ("event_type", .str x.eventType)] := rfl

theorem ScheduledDelivery.plain_write (x : ScheduledDelivery) :
    (codec.write x).Plain maxDepth := by
  rw [codec_write]
  refine .obj fun m hm => ?_
  simp only [List.mem_cons, List.not_mem_nil, or_false] at hm
  obtain rfl | rfl := hm
  · exact .str _
  · exact .str _

theorem ScheduledDelivery.read_write (x : ScheduledDelivery) :
    codec.read (codec.write x) = some x := by
  simp [codec, Record.codec, Record.as, Record.and, Record.member, Record.membersOf?, Codec.uuid,
    Codec.text, Codec.ofText, Uuid.read_text, List.lookup_cons]

/-- A message names the delivery that it announces. -/
theorem ScheduledDelivery.parse_print (x : ScheduledDelivery) :
    codec.parse? (codec.print x) = some x := by
  simp [Codec.parse?, Codec.print, Tree.parse_print x.plain_write, x.read_write]

def connected (x : Except Fault Unit) : bus.Exchange := ⟨.connect, x⟩

def published (message : String) (x : Except Fault Unit) : bus.Exchange :=
  ⟨.publish deliveriesChannel message, x⟩

/-- The message that announces a delivery. -/
def announcement (d : Delivery) : String := ScheduledDelivery.codec.print (.ofDelivery d)

theorem parse_announcement (d : Delivery) :
    ScheduledDelivery.codec.parse? (announcement d) = some ⟨d.id, d.eventType⟩ :=
  ScheduledDelivery.parse_print (.ofDelivery d)

variable {es : List bus.Exchange} {y : Except Fault Unit}

theorem passes_askBus {c : BusCall} (h : (askBus c).Passes es y) : es = [⟨c, y⟩] :=
  Program.passes_ask h

/-- Either all messages are published, or those before one that fails. -/
theorem passes_publishAll {messages : List String} (h : (publishAll messages).Passes es y) :
    (es = messages.map (published · (.ok ())) ∧ y = .ok ()) ∨
      ∃ sent m rest e, messages = sent ++ m :: rest ∧
        es = sent.map (published · (.ok ())) ++ [published m (.error e)] ∧ y = .error e := by
  induction messages generalizing es with
  | nil =>
    obtain ⟨rfl, rfl⟩ := Task.passes_done h
    exact .inl ⟨rfl, rfl⟩
  | cons m rest ih =>
    obtain ⟨first, last, e | ⟨⟩, rfl, hfirst, hlast⟩ := Task.passes_bind h
    · obtain rfl := passes_askBus hfirst
      obtain ⟨rfl, rfl⟩ := hlast
      exact .inr ⟨[], m, rest, e, rfl, rfl, rfl⟩
    · obtain rfl := passes_askBus hfirst
      rcases ih hlast with ⟨rfl, rfl⟩ | ⟨sent, m', rest', e, rfl, rfl, rfl⟩
      · exact .inl ⟨rfl, rfl⟩
      · exact .inr ⟨m :: sent, m', rest', e, rfl, rfl, rfl⟩

/-- How the announcing of some deliveries can go. -/
inductive Schedules : List Delivery → List bus.Exchange → Except Fault Unit → Prop where
  | nothing : Schedules [] [] (.ok ())
  | unreached {ds : List Delivery} (filled : ds ≠ []) (e : Fault) :
    Schedules ds [connected (.error e)] (.error e)
  | broken (sent : List Delivery) (d : Delivery) (rest : List Delivery) (e : Fault) :
    Schedules (sent ++ d :: rest)
      (connected (.ok ()) :: sent.map (fun d => published (announcement d) (.ok ())) ++
        [published (announcement d) (.error e)]) (.error e)
  | all {ds : List Delivery} (filled : ds ≠ []) :
    Schedules ds (connected (.ok ()) :: ds.map fun d => published (announcement d) (.ok ()))
      (.ok ())

theorem messages_eq (ds : List Delivery) :
    (scheduledMessages ds).map (·.2) = ds.map announcement := by
  simp [scheduledMessages, announcement]

theorem passes_schedule {ds : List Delivery} (h : (schedule ds).Passes es y) :
    Schedules ds es y := by
  cases ds with
  | nil =>
    obtain ⟨rfl, rfl⟩ := Task.passes_done h
    exact .nothing
  | cons d ds =>
    have hasked : (askBus .connect >>= fun _ =>
        publishAll ((scheduledMessages (d :: ds)).map (·.2))).Passes es y := h
    obtain ⟨first, last, e | ⟨⟩, rfl, hfirst, hlast⟩ := Task.passes_bind hasked
    · obtain rfl := passes_askBus hfirst
      obtain ⟨rfl, rfl⟩ := hlast
      exact .unreached (List.cons_ne_nil d ds) e
    · obtain rfl := passes_askBus hfirst
      rw [messages_eq] at hlast
      rcases passes_publishAll hlast with ⟨rfl, rfl⟩ | ⟨sent, m, rest, e, hmessages, rfl, rfl⟩
      · rw [List.map_map]
        exact .all (List.cons_ne_nil d ds)
      · obtain ⟨sentTo, others, hds, rfl, hothers⟩ := List.map_eq_append_iff.mp hmessages
        obtain ⟨d', rest', rfl, rfl, rfl⟩ := List.map_eq_cons_iff.mp hothers
        rw [hds, List.map_map]
        exact .broken sentTo d' rest' e

structure Publication where
  channel : String
  message : String
  reply : Except Fault Unit

def publication? : bus.Exchange → Option Publication
  | ⟨.publish channel message, reply⟩ => some ⟨channel, message, reply⟩
  | ⟨.connect, _⟩ => none

def publications (es : List bus.Exchange) : List Publication := es.filterMap publication?

/-- The announcement of a delivery, with its reply. -/
def announced (d : Delivery) (x : Except Fault Unit) : Publication :=
  ⟨deliveriesChannel, announcement d, x⟩

@[simp] theorem publications_nil : publications [] = [] := rfl

@[simp] theorem publications_append (es es' : List bus.Exchange) :
    publications (es ++ es') = publications es ++ publications es' :=
  List.filterMap_append

@[simp] theorem publications_connected (x : Except Fault Unit) (es : List bus.Exchange) :
    publications (connected x :: es) = publications es := rfl

@[simp] theorem publications_announced (d : Delivery) (x : Except Fault Unit)
    (es : List bus.Exchange) :
    publications (published (announcement d) x :: es) = announced d x :: publications es := rfl

@[simp] theorem publications_sent (ds : List Delivery) :
    publications (ds.map fun d => published (announcement d) (.ok ())) =
      ds.map (announced · (.ok ())) := by
  induction ds with
  | nil => rfl
  | cons d ds ih => rw [List.map_cons, publications_announced, ih, List.map_cons]

/-- The deliveries are announced in order. -/
theorem Schedules.ordered {ds : List Delivery} (h : Schedules ds es y) :
    (publications es).map (fun q => (q.channel, q.message)) <+:
      ds.map fun d => (deliveriesChannel, announcement d) := by
  cases h with
  | nothing => exact List.nil_prefix
  | unreached filled e => exact List.nil_prefix
  | broken sent d rest e =>
    refine ⟨rest.map fun d => (deliveriesChannel, announcement d), ?_⟩
    simp [announced]
  | all filled => simp [announced, Function.comp_def]

/-- Nothing is asked of the bus after a call that failed. -/
theorem Schedules.unbroken {ds : List Delivery} (h : Schedules ds es y) :
    ∀ e ∈ es.dropLast, e.reply = .ok () := by
  have succeed : ∀ ds : List Delivery,
      ∀ e ∈ connected (.ok ()) :: ds.map fun d => published (announcement d) (.ok ()),
        e.reply = .ok () := by
    intro ds e he
    obtain rfl | he := List.mem_cons.mp he
    · rfl
    · obtain ⟨d, -, rfl⟩ := List.mem_map.mp he
      rfl
  cases h with
  | nothing => simp
  | unreached filled e => simp
  | broken sent d rest e =>
    rw [List.dropLast_concat]
    exact succeed sent
  | all filled => exact fun e he => succeed ds e (List.dropLast_subset _ he)

/-- Nothing but a failed call keeps a delivery from being announced. -/
theorem Schedules.complete {ds : List Delivery} (h : Schedules ds es y)
    (succeed : ∀ e ∈ es, e.reply = .ok ()) :
    publications es = ds.map (announced · (.ok ())) := by
  cases h with
  | nothing => rfl
  | unreached filled e => cases succeed (connected (.error e)) List.mem_cons_self
  | broken sent d rest e =>
    have hlast : published (announcement d) (.error e) ∈ connected (.ok ()) ::
        sent.map (fun d => published (announcement d) (.ok ())) ++
          [published (announcement d) (.error e)] := by simp
    cases succeed _ hlast
  | all filled => simp

/-- Announcing succeeds just when all deliveries are announced. -/
theorem Schedules.succeeds_iff {ds : List Delivery} (h : Schedules ds es y) :
    y = .ok () ↔ publications es = ds.map (announced · (.ok ())) := by
  cases h with
  | nothing => simp
  | unreached filled e => simpa using filled
  | broken sent d rest e => simp [announced]
  | all filled => simp

/-- The bus fails: it cannot be reached, or the deliveries before some delivery are announced and
then nothing more. -/
def BusFailed (ds : List Delivery) (es : List bus.Exchange) (e : Fault) : Prop :=
  (ds ≠ [] ∧ es = [connected (.error e)]) ∨
    ∃ before d after, ds = before ++ d :: after ∧
      es = connected (.ok ()) :: before.map (fun d => published (announcement d) (.ok ())) ++
        [published (announcement d) (.error e)]

theorem Schedules.failed {ds : List Delivery} {e : Fault} (h : Schedules ds es (.error e)) :
    BusFailed ds es e := by
  cases h with
  | unreached filled e => exact .inl ⟨filled, rfl⟩
  | broken before d after e => exact .inr ⟨before, d, after, rfl, rfl⟩

end ShopRelay.Service
