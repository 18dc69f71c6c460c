import ShopRelay.Tracker.Dispatch
import ShopRelay.Tracker.Memory

/-!
Trial runs over a store in memory. Some calls may be refused, the target of every webhook gives the
same report, and what is asked is logged.
-/

namespace ShopRelay.Tracker

structure Trial where
  memory : Memory
  refused : List String
  report : SendReport
  /-- The names of the store's calls, in order. -/
  calls : List String
  sent : List Sending

namespace Trial

def noReport : SendReport := ⟨⟨"", false⟩, [], [], Number.Binary.zero, .pending⟩

def start : Trial := ⟨.empty, [], noReport, [], []⟩

def replyStore (c : StoreCall) (t : Trial) : Except Fault c.Answer × Trial :=
  let (answer, memory) := Memory.replyUnless t.refused c t.memory
  (answer, { t with memory, calls := t.calls ++ [c.name] })

def replySending (s : Sending) (t : Trial) : SendReport × Trial :=
  (t.report, { t with sent := t.sent ++ [s] })

def reply : (c : outside.Call) → Trial → outside.Reply c × Trial :=
  Interface.sumReply replyStore replySending

def run {α : Type} (t : Trial) (task : Task outside α) : Except Fault α × Trial :=
  task.run reply t

/-- A run that asks the store alone. -/
def runStore {α : Type} (t : Trial) (task : Task storage α) : Except Fault α × Trial :=
  task.run replyStore t

end Trial

end ShopRelay.Tracker
