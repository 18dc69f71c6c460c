import ShopRelay.Database.Statement
import ShopRelay.Proofs.Program

/-!
How single calls of the database and whole transactions can go. A transaction ends with an
acknowledged commit, or else with a fault.
-/

namespace ShopRelay.Database

def executed (s : Statement) (x : Except String Outcome) : session.Exchange := ⟨.execute s, x⟩

def begun (x : Except String Unit) : session.Exchange := ⟨.begin, x⟩

def ended (x : Except String Unit) : session.Exchange := ⟨.commit, x⟩

def undone (x : Except String Unit) : session.Exchange := ⟨.rollback, x⟩

@[simp] theorem ended_inj {x x' : Except String Unit} : ended x = ended x' ↔ x = x' :=
  ⟨fun h => by cases h; rfl, congrArg ended⟩

@[simp] theorem ended_ne_executed (x : Except String Unit) (s : Statement)
    (y : Except String Outcome) : ended x ≠ executed s y := nofun

@[simp] theorem ended_ne_begun (x y : Except String Unit) : ended x ≠ begun y := nofun

@[simp] theorem ended_ne_undone (x y : Except String Unit) : ended x ≠ undone y := nofun

variable {α : Type} {es : List session.Exchange} {y : Except Fault α}

theorem passes_perform {c : Call} {y : Except Fault c.Answer} (h : (perform c).Passes es y) :
    ∃ r : Except String c.Answer, es = [⟨c, r⟩] ∧ y = r.mapError .database := by
  obtain ⟨r, hr, hy⟩ := Program.passes_map (g := fun r => r.mapError .database) (fun
    | .ok _ => rfl
    | .error _ => rfl) h
  exact ⟨r, Program.passes_ask hr, hy⟩

/-- How a transaction around some task can go. -/
inductive Transacts (committing : String) (t : Task session α) :
    List session.Exchange → Except Fault α → Prop where
  | unbegun (text : String) :
    Transacts committing t [begun (.error text)] (.error (.database text))
  | failed {es : List session.Exchange} {e : Fault} (body : t.Passes es (.error e))
      (x : Except String Unit) :
    Transacts committing t (begun (.ok ()) :: es ++ [undone x]) (.error e)
  | uncommitted {es : List session.Exchange} {a : α} (body : t.Passes es (.ok a)) (text : String)
      (x : Except String Unit) :
    Transacts committing t (begun (.ok ()) :: es ++ [ended (.error text), undone x])
      (.error (.context committing (.database text)))
  | committed {es : List session.Exchange} {a : α} (body : t.Passes es (.ok a)) :
    Transacts committing t (begun (.ok ()) :: es ++ [ended (.ok ())]) (.ok a)

/-- What a task asks that is undone when it fails. -/
theorem passes_orRollback {t : Task session α} (h : (orRollback t).Passes es y) :
    ∃ asked r, t.Passes asked r ∧ y = r ∧
      match r with
      | .error _ => ∃ x, es = asked ++ [undone x]
      | .ok _ => es = asked := by
  obtain ⟨first, rest, e | a, rfl, hfirst, hrest⟩ := Program.passes_bind h
  · obtain ⟨back, last, x, rfl, hback, hlast⟩ := Program.passes_bind hrest
    obtain rfl := Program.passes_ask hback
    obtain ⟨rfl, rfl⟩ := Program.passes_done hlast
    exact ⟨first, .error e, hfirst, rfl, x, rfl⟩
  · obtain ⟨rfl, rfl⟩ := Program.passes_done hrest
    exact ⟨first, .ok a, hfirst, rfl, List.append_nil _⟩

theorem passes_transaction {committing : String} {t : Task session α}
    (h : (transaction committing t).Passes es y) : Transacts committing t es y := by
  obtain ⟨first, rest, r, rfl, hbegin, hrest⟩ := Task.passes_bind h
  obtain ⟨text | ⟨⟩, rfl, rfl⟩ := passes_perform hbegin
  · obtain ⟨rfl, rfl⟩ := hrest
    exact .unbegun text
  · obtain ⟨asked, r, hasked, rfl, hundone⟩ := passes_orRollback hrest
    obtain ⟨body, back, r', rfl, hbody, hend⟩ := Task.passes_bind hasked
    cases r' with
    | error e =>
      obtain ⟨rfl, rfl⟩ := hend
      obtain ⟨x, rfl⟩ := hundone
      rw [List.append_nil]
      exact .failed hbody x
    | ok a =>
      obtain ⟨r, hcommitting, rfl⟩ := Task.passes_map hend
      obtain ⟨r', hcommit, rfl⟩ := Task.passes_context hcommitting
      obtain ⟨text | ⟨⟩, rfl, rfl⟩ := passes_perform hcommit
      · obtain ⟨x, rfl⟩ := hundone
        rw [List.append_assoc]
        exact .uncommitted hbody text x
      · obtain rfl := hundone
        exact .committed hbody

end ShopRelay.Database
