import ShopRelay.Proofs.Json.Stable
import ShopRelay.Proofs.Tracker.Memory
import ShopRelay.Tracker.Dispatch

/-!
What is recorded of a sent attempt: the stored attempt takes over the outcome, in texts that read
back as what was reported, and keeps all else.
-/

namespace ShopRelay

open Json

open Time (Timestamp)

theorem Excerpt.parse_print (e : Excerpt) :
    Excerpt.codec.parse? (Excerpt.codec.print e) = some e := by
  refine Codec.parse_print_plain (.obj ?_) rfl
  exact List.forall_mem_cons.mpr ⟨.str e.text, List.forall_mem_singleton.mpr (.bool e.truncated)⟩

theorem headers_parse_print {headers : Dict String} (h : headers.Sorted) :
    headersCodec.parse? (headersCodec.print headers) = some headers := by
  refine Codec.parse_print_plain (.obj fun m hm => ?_) ?_
  · obtain ⟨e, -, rfl⟩ := List.mem_map.mp hm
    exact .str e.2
  · have hread : (headers.map fun e => (e.1, Codec.text.write e.2)).mapM
        (fun m => do return (m.1, ← Codec.text.read m.2)) = some headers :=
      Json.mapM_map fun _ _ => rfl
    change Option.map Dict.ofList _ = some headers
    rw [hread, Option.map_some, Dict.ofList_sorted h]

namespace Tracker

/-- An attempt in which a report was recorded. -/
structure Records (r : SendReport) (stored updated : Attempt) : Prop where
  content : updated.response.bind Excerpt.codec.parse? = some r.content
  requestHeaders : updated.requestHeaders.bind headersCodec.parse? = some r.requestHeaders
  responseHeaders : updated.responseHeaders.bind headersCodec.parse? = some r.responseHeaders
  status : updated.status = r.status
  duration : updated.duration = some r.duration
  id : updated.id = stored.id
  deliveryId : updated.deliveryId = stored.deliveryId
  taskId : updated.taskId = stored.taskId
  createdAt : updated.createdAt = stored.createdAt

theorem records_takeOutcome {r : SendReport} (sent : r.requestHeaders.Sorted)
    (received : r.responseHeaders.Sorted) (stored attempt : Attempt) :
    Records r stored (Memory.takeOutcome stored (withReport attempt r)) where
  content := by
    rw [Memory.takeOutcome, withReport, Option.bind_some, r.content.parse_print]
  requestHeaders := by
    rw [Memory.takeOutcome, withReport, Option.bind_some, headers_parse_print sent]
  responseHeaders := by
    rw [Memory.takeOutcome, withReport, Option.bind_some, headers_parse_print received]
  status := rfl
  duration := rfl
  id := rfl
  deliveryId := rfl
  taskId := rfl
  createdAt := rfl

/-- A report is recorded in the one stored attempt that has the id, of which only the outcome
changes, and nowhere else. Nothing else is taken from the attempt that the caller holds. Without an
attempt of the id there is a fault, and nothing changes. -/
theorem report_recorded (m : Memory) (distinct : (m.attempts.map (·.id)).Nodup)
    (attempt : Attempt) (r : SendReport) (sent : r.requestHeaders.Sorted)
    (received : r.responseHeaders.Sorted) :
    (∀ before stored after, m.attempts = before ++ stored :: after → stored.id = attempt.id →
      ∃ updated, Records r stored updated ∧ (updateAttempt attempt r).run Memory.reply m =
        (.ok (), { m with attempts := before ++ updated :: after })) ∧
    ((∀ a ∈ m.attempts, a.id ≠ attempt.id) → (updateAttempt attempt r).run Memory.reply m =
      (.error (.attemptMissing attempt.id), m)) := by
  refine ⟨fun before stored after hattempts hid => ?stored, fun hmissing => ?missing⟩
  case stored =>
    have hbefore : ∀ a ∈ before, a.id ≠ attempt.id := by
      rw [hattempts, List.map_append, List.nodup_append] at distinct
      intro a ha
      rw [← hid]
      exact distinct.2.2 a.id (List.mem_map_of_mem ha) stored.id (by simp)
    have hfound : m.attempt? attempt.id = some stored := by
      rw [Memory.attempt?, hattempts, List.find?_append,
        List.find?_eq_none.mpr fun a ha => by simpa using hbefore a ha, Option.none_or,
        List.find?_cons_of_pos (by simpa using hid)]
    have hsave : (updateAttempt attempt r).run Memory.reply m =
        (.ok (), m.saveOutcome (withReport attempt r)) :=
      Memory.reply_saveOutcome (a := withReport attempt r) hfound
    refine ⟨_, records_takeOutcome sent received stored attempt, ?_⟩
    rw [hsave, Memory.saveOutcome, hattempts,
      Memory.updateFirst_append (a := withReport attempt r) hid hbefore]
  case missing =>
    have hnone : m.attempt? attempt.id = none := by
      rw [Memory.attempt?, List.find?_eq_none]
      simpa using hmissing
    exact Memory.reply_saveOutcome_lost (a := withReport attempt r) hnone

namespace Sample

def refusedAttempt : Attempt :=
  ⟨.ofNat 5, some (.ofNat 3), none, none, none, none, none, .failed, .epoch⟩

def openAttempt : Attempt :=
  ⟨.ofNat 6, some (.ofNat 3), some "task", none, none, none, none, .pending, .epoch⟩

/-- A copy that differs from the stored attempt in all but its id. -/
def strayCopy : Attempt :=
  ⟨openAttempt.id, none, none, some .zero, some "", none, none, .success,
    { Timestamp.epoch with nanos := 1, nanos_lt := by decide, leap := by decide }⟩

def tried : Memory := ⟨[], [], [], [refusedAttempt, openAttempt]⟩

def brokenOff : SendReport where
  content := ⟨"\"\\\n\x01é😀", true⟩
  requestHeaders := [("Content-Type", "application/json"), ("X-Event-Type", "order\tcreated")]
  responseHeaders := [("content-type", "text/plain"), ("x-note", "")]
  duration := .zero
  status := .failed

end Sample

open Sample

theorem report_recorded_brokenOff :
    (tried.attempts.map (·.id)).Nodup ∧ brokenOff.requestHeaders.Sorted ∧
      brokenOff.responseHeaders.Sorted ∧
      (∃ updated, Records brokenOff openAttempt updated ∧
        (updateAttempt strayCopy brokenOff).run Memory.reply tried =
          (.ok (), ⟨[], [], [], [refusedAttempt, updated]⟩)) ∧
      (updateAttempt { strayCopy with id := .ofNat 7 } brokenOff).run Memory.reply tried =
        (.error (.attemptMissing (.ofNat 7)), tried) := by
  have distinct : (tried.attempts.map (·.id)).Nodup := by decide
  have sent : brokenOff.requestHeaders.Sorted := by
    unfold Dict.Sorted
    decide
  have received : brokenOff.responseHeaders.Sorted := by
    unfold Dict.Sorted
    decide
  refine ⟨distinct, sent, received, ?_, ?_⟩
  · exact (report_recorded tried distinct strayCopy brokenOff sent received).1
      [refusedAttempt] openAttempt [] rfl rfl
  · exact (report_recorded tried distinct { strayCopy with id := .ofNat 7 } brokenOff sent
      received).2 (by decide)

end Tracker

end ShopRelay
