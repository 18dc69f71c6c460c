import Mathlib.Data.List.Induction
import Mathlib.Data.List.Pairwise
import ShopRelay.TaxApp

/-!
The app that answers for taxes has the greatest id of all that qualify, and stands last among those
with this id. Apps that do not qualify have no say, and without a tie neither has the order.
-/

namespace ShopRelay.TaxApp

/-- One of the app's active webhooks lists the event. -/
def Listens (a : App) (event : StoreEvent) : Prop :=
  ∃ w ∈ a.webhooks, w.isActive = true ∧ event.name ∈ w.events

structure Qualified (a : App) : Prop where
  active : a.isActive = true
  checkoutTaxes : Listens a .checkoutCalculateTaxes
  orderTaxes : Listens a .orderCalculateTaxes
  taxCodes : Listens a .fetchTaxCodes

/-- An app that qualifies, at a place of the list behind which no app that qualifies has an id as
great, and before which none has a greater one. -/
def LastOfGreatest (apps : List App) (best : App) : Prop :=
  ∃ before after, apps = before ++ best :: after ∧ Qualified best ∧
    (∀ a ∈ before, Qualified a → a.id ≤ best.id) ∧ ∀ a ∈ after, Qualified a → a.id < best.id

/-- The second list has the apps of the first, and some that do not qualify anywhere between. -/
inductive Padded : List App → List App → Prop where
  | nil : Padded [] []
  | shared {apps more : List App} (a : App) (h : Padded apps more) : Padded (a :: apps) (a :: more)
  | extra {apps more : List App} {a : App} (ha : ¬Qualified a) (h : Padded apps more) :
    Padded apps (a :: more)

/-- No two apps that qualify have the same id. -/
def Unrivalled (apps : List App) : Prop :=
  apps.Pairwise fun a b => Qualified a → Qualified b → a.id ≠ b.id

variable {apps more others : List App} {a best other : App}

theorem handles_iff {event : StoreEvent} :
    a.handles event = true ↔ a.isActive = true ∧ Listens a event := by
  simp [App.handles, Webhook.subscribesTo, Listens]

theorem qualifies_iff : qualifies a = true ↔ Qualified a := by
  simp only [qualifies, events, List.all_cons, List.all_nil, Bool.and_true, Bool.and_eq_true,
    handles_iff]
  constructor
  · rintro ⟨⟨hactive, hcheckout⟩, ⟨-, horder⟩, -, hcodes⟩
    exact ⟨hactive, hcheckout, horder, hcodes⟩
  · rintro ⟨hactive, hcheckout, horder, hcodes⟩
    exact ⟨⟨hactive, hcheckout⟩, ⟨hactive, horder⟩, hactive, hcodes⟩

theorem current_concat_unqualified (apps : List App) (h : ¬Qualified a) :
    current? (apps ++ [a]) = current? apps := by
  rw [← qualifies_iff] at h
  simp [current?, List.filter_append, h]

theorem current_concat_qualified (apps : List App) (h : Qualified a) :
    current? (apps ++ [a]) = later (current? apps) a := by
  rw [← qualifies_iff] at h
  simp [current?, List.filter_append, h]

namespace LastOfGreatest

theorem mem (h : LastOfGreatest apps best) : best ∈ apps := by
  obtain ⟨before, after, rfl, -⟩ := h
  simp

theorem qualified (h : LastOfGreatest apps best) : Qualified best := by
  obtain ⟨before, after, -, hbest, -⟩ := h
  exact hbest

theorem le (h : LastOfGreatest apps best) (hmem : a ∈ apps) (ha : Qualified a) :
    a.id ≤ best.id := by
  obtain ⟨before, after, rfl, -, hbefore, hafter⟩ := h
  rcases List.mem_append.mp hmem with hmem | hmem
  · exact hbefore a hmem ha
  · rcases List.mem_cons.mp hmem with rfl | hmem
    · exact Int.le_refl _
    · exact Int.le_of_lt (hafter a hmem ha)

/-- An app behind that does not qualify, or has a lesser id, changes nothing. -/
theorem concat (h : LastOfGreatest apps best) (ha : Qualified a → a.id < best.id) :
    LastOfGreatest (apps ++ [a]) best := by
  obtain ⟨before, after, rfl, hbest, hbefore, hafter⟩ := h
  refine ⟨before, after ++ [a], by simp, hbest, hbefore, fun b hb hqualified => ?_⟩
  rcases List.mem_append.mp hb with hb | hb
  · exact hafter b hb hqualified
  · obtain rfl := List.mem_singleton.mp hb
    exact ha hqualified

theorem last (ha : Qualified a) (h : ∀ b ∈ apps, Qualified b → b.id ≤ a.id) :
    LastOfGreatest (apps ++ [a]) a :=
  ⟨apps, [], rfl, ha, h, nofun⟩

/-- Of two different places one stands behind the other. -/
theorem unique (h : LastOfGreatest apps best) (ho : LastOfGreatest apps other) : best = other := by
  obtain ⟨before, after, rfl, hbest, hbefore, hafter⟩ := h
  obtain ⟨before', after', heq, hother, hbefore', hafter'⟩ := ho
  rcases List.append_eq_append_iff.mp heq with ⟨between, rfl, htail⟩ | ⟨between, rfl, htail⟩
  · cases between with
    | nil => exact (List.cons.inj htail).1
    | cons b between =>
      obtain ⟨rfl, rfl⟩ := List.cons.inj htail
      have hless := hafter other (by simp) hother
      have hle := hbefore' best (by simp) hbest
      omega
  · cases between with
    | nil => exact (List.cons.inj htail).1.symm
    | cons b between =>
      obtain ⟨rfl, rfl⟩ := List.cons.inj htail
      have hless := hafter' best (by simp) hbest
      have hle := hbefore other (by simp) hother
      omega

end LastOfGreatest

/-- What is chosen from a list. -/
inductive Chosen (apps : List App) : Option App → Prop where
  | none (h : ∀ a ∈ apps, ¬Qualified a) : Chosen apps none
  | some {best : App} (h : LastOfGreatest apps best) : Chosen apps (some best)

theorem Chosen.unqualified {chosen : Option App} (h : Chosen apps chosen) (ha : ¬Qualified a) :
    Chosen (apps ++ [a]) chosen := by
  cases h with
  | none h =>
    refine .none fun b hb => ?_
    rcases List.mem_append.mp hb with hb | hb
    · exact h b hb
    · obtain rfl := List.mem_singleton.mp hb
      exact ha
  | some h => exact .some (h.concat fun hqualified => absurd hqualified ha)

theorem Chosen.later {chosen : Option App} (h : Chosen apps chosen) (ha : Qualified a) :
    Chosen (apps ++ [a]) (later chosen a) := by
  cases h with
  | none h => exact .some (.last ha fun b hb hqualified => absurd hqualified (h b hb))
  | @some best h =>
    unfold TaxApp.later
    dsimp only
    split
    · next hless => exact .some (h.concat fun _ => hless)
    · next hge =>
      refine .some (.last ha fun b hb hqualified => ?_)
      have hle := h.le hb hqualified
      omega

/-- The apps are gone through one by one, and what is chosen so far is kept or given up for the
next. -/
theorem chosen_current (apps : List App) : Chosen apps (current? apps) := by
  induction apps using List.reverseRecOn with
  | nil => exact .none nofun
  | append_singleton apps a ih =>
    by_cases ha : Qualified a
    · rw [current_concat_qualified apps ha]
      exact ih.later ha
    · rw [current_concat_unqualified apps ha]
      exact ih.unqualified ha

theorem current_eq_none : current? apps = none ↔ ∀ a ∈ apps, ¬Qualified a := by
  have hchosen := chosen_current apps
  constructor
  · intro h
    rw [h] at hchosen
    cases hchosen with
    | none hnone => exact hnone
  · intro h
    cases hcurrent : current? apps with
    | none => rfl
    | some best =>
      rw [hcurrent] at hchosen
      cases hchosen with
      | some hbest => exact absurd hbest.qualified (h best hbest.mem)

theorem current_eq_some : current? apps = some best ↔ LastOfGreatest apps best := by
  have hchosen := chosen_current apps
  constructor
  · intro h
    rw [h] at hchosen
    cases hchosen with
    | some hbest => exact hbest
  · intro h
    cases hcurrent : current? apps with
    | none => exact absurd h.qualified (current_eq_none.mp hcurrent best h.mem)
    | some other =>
      rw [hcurrent] at hchosen
      cases hchosen with
      | some hother => rw [hother.unique h]

theorem Padded.filter_eq (h : Padded apps more) :
    more.filter qualifies = apps.filter qualifies := by
  induction h with
  | nil => rfl
  | shared a _ ih => rw [List.filter_cons, List.filter_cons, ih]
  | extra ha _ ih =>
    rw [← qualifies_iff] at ha
    rw [List.filter_cons_of_neg ha, ih]

theorem Padded.current_eq (h : Padded apps more) : current? more = current? apps := by
  rw [current?, current?, h.filter_eq]

theorem Unrivalled.eq_of_id (h : Unrivalled apps) (hmem : a ∈ apps) (hother : other ∈ apps)
    (ha : Qualified a) (ho : Qualified other) (hid : a.id = other.id) : a = other := by
  have hsymm : Std.Symm fun a b : App => Qualified a → Qualified b → a.id ≠ b.id :=
    ⟨fun a b hab hb ha => (hab ha hb).symm⟩
  by_contra hne
  exact List.Pairwise.forall h hmem hother hne ha ho hid

/-- With distinct ids the greatest one is the same in whatever order. -/
theorem current_perm (h : apps.Perm others) (unrivalled : Unrivalled apps) :
    current? others = current? apps := by
  cases hcurrent : current? apps with
  | none =>
    rw [current_eq_none] at hcurrent ⊢
    intro a ha
    exact hcurrent a (h.mem_iff.mpr ha)
  | some best =>
    have hbest := current_eq_some.mp hcurrent
    have hmem : best ∈ others := h.mem_iff.mp hbest.mem
    cases hothers : current? others with
    | none => exact absurd hbest.qualified (current_eq_none.mp hothers best hmem)
    | some other =>
      have hother := current_eq_some.mp hothers
      have hother_mem : other ∈ apps := h.mem_iff.mpr hother.mem
      have hid : other.id = best.id := Int.le_antisymm (hbest.le hother_mem hother.qualified)
        (hother.le hmem hbest.qualified)
      rw [unrivalled.eq_of_id hother_mem hbest.mem hother.qualified hbest.qualified hid]

/-- No app is chosen exactly when none qualifies, and otherwise the last of those with the greatest
id. Apps that do not qualify can stand anywhere in the list, and where no two that qualify have the
same id any order will do. -/
theorem tax_app_last_of_greatest (apps : List App) :
    (current? apps = none ↔ ∀ a ∈ apps, ¬Qualified a) ∧
    (∀ best, current? apps = some best ↔ LastOfGreatest apps best) ∧
    (∀ more, Padded apps more → current? more = current? apps) ∧
    ∀ others, apps.Perm others → Unrivalled apps → current? others = current? apps :=
  ⟨current_eq_none, fun _ => current_eq_some, fun _ h => h.current_eq, fun _ => current_perm⟩

namespace Sample

def app (id : Int) (webhooks : List (List String)) : App where
  id
  identifier := "tax"
  name := "Tax"
  isActive := true
  webhooks := webhooks.map fun events =>
    ⟨⟨0⟩, id, "taxes", "https://tax.example.com", none, true, events⟩

/-- Two webhooks answer for it, either of them for a part of the events. -/
def divided : App :=
  app 5 [["checkout_calculate_taxes"], ["fetch_tax_codes", "order_calculate_taxes"]]

def whole : App :=
  app 1 [["checkout_calculate_taxes", "order_calculate_taxes", "fetch_tax_codes"]]

/-- It does not know the tax codes. -/
def unfinished : App := app 9 [["checkout_calculate_taxes", "order_calculate_taxes"]]

end Sample

open Sample

theorem tax_app_last_of_greatest_divided :
    current? [whole, divided] = some divided ∧
    Padded [whole, divided] [whole, unfinished, divided] ∧
    current? [whole, unfinished, divided] = some divided ∧
    [whole, divided].Perm [divided, whole] ∧ Unrivalled [whole, divided] ∧
    current? [divided, whole] = some divided := by
  have hcurrent : current? [whole, divided] = some divided := by decide
  have hunfinished : ¬Qualified unfinished := by
    rw [← qualifies_iff]
    decide
  have hpadded : Padded [whole, divided] [whole, unfinished, divided] :=
    .shared whole (.extra hunfinished (.shared divided .nil))
  have hperm : [whole, divided].Perm [divided, whole] := .swap divided whole []
  have hunrivalled : Unrivalled [whole, divided] := by
    refine List.pairwise_pair.mpr fun _ _ => ?_
    decide
  obtain ⟨-, -, padded, perm⟩ := tax_app_last_of_greatest [whole, divided]
  refine ⟨hcurrent, hpadded, ?_, hperm, hunrivalled, ?_⟩
  · rw [padded _ hpadded, hcurrent]
  · rw [perm _ hperm hunrivalled, hcurrent]

end ShopRelay.TaxApp
