import Mathlib.Data.List.Induction
import ShopRelay.Database.Grouping
import ShopRelay.Proofs.Result

/-!
Grouping the rows of assigned attributes. When the rows of an assignment follow each other and have
one owner, each owner gets its assignments in the order of their first rows, and each of these the
values of all its rows.
-/

namespace ShopRelay.Database

/-- The places of an id follow each other. -/
def Contiguous (ids : List Uuid) : Prop := ∀ a b, List.Sublist [a, b, a] ids → b = a

instance (ids : List Uuid) : Decidable (Contiguous ids) :=
  decidable_of_iff (∀ a ∈ ids, ∀ b ∈ ids, List.Sublist [a, b, a] ids → b = a)
    ⟨fun h a b hab => h a (hab.subset (by simp)) b (hab.subset (by simp)) hab,
      fun h a _ b _ => h a b⟩

namespace Contiguous

variable {ids ids' : List Uuid} {id last : Uuid}

theorem of_sublist (h : Contiguous ids) (hsub : ids'.Sublist ids) : Contiguous ids' :=
  fun a b hab => h a b (hab.trans hsub)

/-- An id that has come before came just before. -/
theorem last_eq (h : Contiguous (ids ++ [last, id])) (hid : id ∈ ids ++ [last]) : last = id := by
  rcases List.mem_append.mp hid with hid | hid
  · apply h id last
    have hfirst : [id].Sublist ids := List.singleton_sublist.mpr hid
    exact hfirst.append (List.Sublist.refl [last, id])
  · exact (List.mem_singleton.mp hid).symm

theorem eraseDups_concat (ids : List Uuid) (id : Uuid) :
    (ids ++ [id]).eraseDups = if id ∈ ids then ids.eraseDups else ids.eraseDups ++ [id] := by
  rw [List.eraseDups_append]
  by_cases h : id ∈ ids
  · simp [List.removeAll, h]
  · simp [List.removeAll, List.eraseDups_cons, h]

/-- Of ids in the order of their first places the one that came last is the last. -/
theorem eraseDups_last (h : Contiguous (ids ++ [id])) :
    ∃ before, (ids ++ [id]).eraseDups = before ++ [id] ∧ id ∉ before := by
  induction ids using List.reverseRecOn with
  | nil => exact ⟨[], rfl, List.not_mem_nil⟩
  | append_singleton ids last ih =>
    rw [eraseDups_concat]
    split
    · next hid =>
      rw [List.append_assoc] at h
      obtain rfl := h.last_eq hid
      exact ih (h.of_sublist (by simp))
    · next hid => exact ⟨_, rfl, fun hmem => hid (List.mem_eraseDups.mp hmem)⟩

end Contiguous

/-- What a row of assigned attributes says. -/
structure AssignmentRow where
  assignment : Uuid
  owner : Uuid
  definition : Attribute
  value : Option AttributeValue

def AssignmentRow.ofRow (row : Row) : Except Fault AssignmentRow := do
  return {
    assignment := ← row.required "assignment_id" Cell.uuid?
    owner := ← row.required "owner_id" Cell.uuid?
    definition := ← Assignments.attributeOfRow row
    value := ← (← row.optional "value_id" Cell.uuid?).mapM (Assignments.valueOfRow · row) }

/-- The rows of an assignment follow each other and have one owner. -/
structure Ordered (xs : List AssignmentRow) : Prop where
  contiguous : Contiguous (xs.map (·.assignment))
  oneOwner : ∀ x ∈ xs, ∀ y ∈ xs, x.assignment = y.assignment → x.owner = y.owner

instance (xs : List AssignmentRow) : Decidable (Ordered xs) :=
  decidable_of_iff (_ ∧ _) ⟨fun h => ⟨h.1, h.2⟩, fun h => ⟨h.contiguous, h.oneOwner⟩⟩

/-- The attribute that some rows assign under an id, with the values of all its rows. -/
def gathered (xs : List AssignmentRow) (assignment : Uuid) : Option AssignedAttribute :=
  let own := xs.filter (·.assignment = assignment)
  own.head?.map fun first => ⟨first.definition, own.filterMap (·.value)⟩

/-- The attributes that some rows assign, in the order of their first rows. -/
def assignedIn (xs : List AssignmentRow) : List AssignedAttribute :=
  (xs.map (·.assignment)).eraseDups.filterMap (gathered xs)

/-- The attributes that some rows assign to an owner. -/
def assignedTo (xs : List AssignmentRow) (owner : Uuid) : List AssignedAttribute :=
  assignedIn (xs.filter (·.owner = owner))

/-- An attribute with what another one of its rows adds. -/
def withValue (a : AssignedAttribute) (x : AssignmentRow) : AssignedAttribute :=
  { a with values := a.values ++ x.value.toList }

variable {xs ys : List AssignmentRow} {x y : AssignmentRow}

theorem Ordered.of_sublist (h : Ordered xs) (hsub : ys.Sublist xs) : Ordered ys where
  contiguous := h.contiguous.of_sublist (hsub.map _)
  oneOwner y hy z hz := h.oneOwner y (hsub.subset hy) z (hsub.subset hz)

theorem gathered_other {id : Uuid} (h : x.assignment ≠ id) :
    gathered (xs ++ [x]) id = gathered xs id := by
  have hsame : (xs ++ [x]).filter (·.assignment = id) = xs.filter (·.assignment = id) := by
    simp [h]
  rw [gathered, gathered, hsame]

theorem gathered_opened (h : x.assignment ∉ xs.map (·.assignment)) :
    gathered (xs ++ [x]) x.assignment = some (withValue ⟨x.definition, []⟩ x) := by
  have hnone : xs.filter (·.assignment = x.assignment) = [] := by
    rw [List.filter_eq_nil_iff]
    intro y hy heq
    exact h (List.mem_map.mpr ⟨y, hy, by simpa using heq⟩)
  rw [gathered, List.filter_append, hnone]
  cases hx : x.value with
  | none => simp [withValue, hx]
  | some v => simp [withValue, hx]

theorem gathered_continued {a : AssignedAttribute} (h : gathered xs x.assignment = some a) :
    gathered (xs ++ [x]) x.assignment = some (withValue a x) := by
  obtain ⟨first, hfirst, rfl⟩ := Option.map_eq_some_iff.mp h
  have hown : (xs ++ [x]).filter (·.assignment = x.assignment) =
      xs.filter (·.assignment = x.assignment) ++ [x] := by simp
  rw [gathered, hown, List.head?_append, hfirst]
  cases hx : x.value with
  | none => simp [withValue, hx]
  | some v => simp [withValue, hx]

theorem gathered_isSome (h : x ∈ xs) : ∃ a, gathered xs x.assignment = some a := by
  have hx : x ∈ xs.filter (·.assignment = x.assignment) := by simpa using h
  obtain ⟨first, rest, hrest⟩ := List.exists_cons_of_ne_nil (List.ne_nil_of_mem hx)
  exact ⟨_, by rw [gathered, hrest]; rfl⟩

theorem filterMap_gathered {ids : List Uuid} (h : x.assignment ∉ ids) :
    ids.filterMap (gathered (xs ++ [x])) = ids.filterMap (gathered xs) :=
  List.filterMap_congr fun _ hid => gathered_other fun heq => h (heq ▸ hid)

/-- The first row of an assignment opens it. -/
theorem assignedIn_opened (h : x.assignment ∉ xs.map (·.assignment)) :
    assignedIn (xs ++ [x]) = assignedIn xs ++ [withValue ⟨x.definition, []⟩ x] := by
  have hfirsts : x.assignment ∉ (xs.map (·.assignment)).eraseDups := by
    rwa [List.mem_eraseDups]
  rw [assignedIn, List.map_append, List.map_singleton, Contiguous.eraseDups_concat, if_neg h,
    List.filterMap_append, filterMap_gathered hfirsts,
    List.filterMap_cons_some (gathered_opened h), List.filterMap_nil, assignedIn]

/-- A further row of an assignment adds to the one that was opened last. -/
theorem assignedIn_continued (h : Contiguous ((xs ++ [y]).map (·.assignment)))
    (hsame : y.assignment = x.assignment) :
    ∃ before a, assignedIn (xs ++ [y]) = before ++ [a] ∧
      assignedIn (xs ++ [y] ++ [x]) = before ++ [withValue a x] := by
  rw [List.map_append, List.map_singleton, hsame] at h
  obtain ⟨before, hfirsts, hbefore⟩ := h.eraseDups_last
  have hmem : y ∈ xs ++ [y] := by simp
  obtain ⟨a, ha⟩ := gathered_isSome hmem
  rw [hsame] at ha
  refine ⟨before.filterMap (gathered (xs ++ [y])), a, ?_, ?_⟩
  · rw [assignedIn, List.map_append, List.map_singleton, hsame, hfirsts, List.filterMap_append,
      List.filterMap_cons_some ha, List.filterMap_nil]
  · have hseen : x.assignment ∈ (xs ++ [y]).map (·.assignment) := by simp [hsame]
    rw [assignedIn, List.map_append, List.map_singleton, Contiguous.eraseDups_concat, if_pos hseen,
      List.map_append, List.map_singleton, hsame, hfirsts, List.filterMap_append,
      filterMap_gathered hbefore, List.filterMap_cons_some (gathered_continued ha),
      List.filterMap_nil]

/-- There is one attribute for each assignment. -/
theorem assignedIn_length (xs : List AssignmentRow) :
    (assignedIn xs).length = (xs.map (·.assignment)).eraseDups.length := by
  rw [assignedIn, List.length_filterMap_eq_countP, List.countP_eq_length]
  intro id hid
  obtain ⟨x, hx, rfl⟩ := List.mem_map.mp (List.mem_eraseDups.mp hid)
  obtain ⟨a, ha⟩ := gathered_isSome hx
  rw [ha]
  rfl

/-- A row of an assignment that has been seen follows one of the same assignment. -/
theorem Contiguous.row_before (h : Contiguous ((xs ++ [y] ++ [x]).map (·.assignment)))
    (hseen : x.assignment ∈ (xs ++ [y]).map (·.assignment)) : y.assignment = x.assignment := by
  rw [List.append_assoc, List.map_append] at h
  rw [List.map_append] at hseen
  exact h.last_eq hseen

/-- No value is lost, and none is given twice. -/
theorem assignedIn_values (h : Contiguous (xs.map (·.assignment))) :
    (assignedIn xs).flatMap (·.values) = xs.filterMap (·.value) := by
  induction xs using List.reverseRecOn with
  | nil => rfl
  | append_singleton xs x ih =>
    have hxs : Contiguous (xs.map (·.assignment)) := h.of_sublist (by simp)
    rw [List.filterMap_append, ← ih hxs]
    by_cases hseen : x.assignment ∈ xs.map (·.assignment)
    · obtain rfl | ⟨xs, y, rfl⟩ := xs.eq_nil_or_concat
      · cases hseen
      · rw [List.concat_eq_append] at h hxs hseen ⊢
        obtain ⟨before, a, hbefore, hafter⟩ := assignedIn_continued hxs (h.row_before hseen)
        rw [hbefore, hafter]
        cases hx : x.value with
        | none => simp [withValue, hx]
        | some v => simp [withValue, hx]
    · rw [assignedIn_opened hseen]
      cases hx : x.value with
      | none => simp [withValue, hx]
      | some v => simp [withValue, hx]

/-- An owner has one attribute for each of its assignments, and in them the values of all its
rows. -/
structure OwnsAll (xs : List AssignmentRow) (owner : Uuid) (attributes : List AssignedAttribute) :
    Prop where
  count : attributes.length =
    ((xs.filter (·.owner = owner)).map (·.assignment)).eraseDups.length
  values : attributes.flatMap (·.values) = (xs.filter (·.owner = owner)).filterMap (·.value)

theorem Ordered.ownsAll (h : Ordered xs) (owner : Uuid) :
    OwnsAll xs owner (assignedTo xs owner) where
  count := assignedIn_length _
  values := assignedIn_values (h.of_sublist List.filter_sublist).contiguous

variable {row : Row}

theorem AssignmentRow.ofRow_ok (h : ofRow row = .ok x) :
    row.required "assignment_id" Cell.uuid? = .ok x.assignment ∧
      row.required "owner_id" Cell.uuid? = .ok x.owner ∧
      Assignments.attributeOfRow row = .ok x.definition ∧
      ∃ id, row.optional "value_id" Cell.uuid? = .ok id ∧
        id.mapM (Assignments.valueOfRow · row) = .ok x.value := by
  obtain ⟨assignment, hassignment, hrest⟩ := Result.bind_ok h
  obtain ⟨owner, howner, hrest⟩ := Result.bind_ok hrest
  obtain ⟨definition, hdefinition, hrest⟩ := Result.bind_ok hrest
  obtain ⟨id, hid, hrest⟩ := Result.bind_ok hrest
  obtain ⟨value, hvalue, hrest⟩ := Result.bind_ok hrest
  obtain rfl := Except.ok.inj hrest
  exact ⟨hassignment, howner, hdefinition, id, hid, hvalue⟩

namespace Assignments

variable {groups : Assignments} {before : List AssignedAttribute} {a : AssignedAttribute}

theorem addAttribute_eq (h : AssignmentRow.ofRow row = .ok x) :
    addAttribute row before = .ok (before ++ [⟨x.definition, []⟩]) := by
  obtain ⟨-, -, hdefinition, -⟩ := AssignmentRow.ofRow_ok h
  rw [addAttribute, hdefinition]
  rfl

theorem addValue_eq (h : AssignmentRow.ofRow row = .ok x) :
    addValue row (before ++ [a]) = .ok (before ++ [withValue a x]) := by
  obtain ⟨-, -, -, id, hid, hvalue⟩ := AssignmentRow.ofRow_ok h
  cases id with
  | none =>
    have hnone : x.value = none := (Except.ok.inj hvalue).symm
    have hsame : withValue a x = a := by simp [withValue, hnone]
    rw [addValue, hid, hsame]
    rfl
  | some id =>
    obtain ⟨v, hv, hsome⟩ := Result.bind_ok hvalue
    have hsome : x.value = some v := (Except.ok.inj hsome).symm
    have hlast : (before ++ [a]).getLast? = some a := by simp
    rw [addValue, hid, hlast, List.dropLast_concat, withValue, hsome]
    exact congrArg (· >>= fun v => .ok (before ++ [{ a with values := a.values ++ [v] }])) hv

/-- What has been grouped after some rows. -/
structure Groups (xs : List AssignmentRow) (groups : Assignments) : Prop where
  byOwner : groups.byOwner = assignedTo xs
  current : groups.current = xs.getLast?.map (·.assignment)

theorem groups_start : Groups [] start := ⟨rfl, rfl⟩

/-- A row opens an attribute of its owner or adds to the one that is open. -/
theorem addRow_opened (h : AssignmentRow.ofRow row = .ok x)
    (hcurrent : groups.current ≠ some x.assignment) :
    addRow groups row = .ok ⟨groups.byOwner.set x.owner
      (groups.byOwner x.owner ++ [withValue ⟨x.definition, []⟩ x]), some x.assignment⟩ := by
  obtain ⟨hassignment, howner, -, -⟩ := AssignmentRow.ofRow_ok h
  simp only [addRow, hassignment, howner, bind, Except.bind, if_neg hcurrent, addAttribute_eq h,
    addValue_eq h]
  rfl

theorem addRow_continued (h : AssignmentRow.ofRow row = .ok x)
    (hcurrent : groups.current = some x.assignment)
    (hopen : groups.byOwner x.owner = before ++ [a]) :
    addRow groups row = .ok ⟨groups.byOwner.set x.owner (before ++ [withValue a x]),
      some x.assignment⟩ := by
  obtain ⟨hassignment, howner, -, -⟩ := AssignmentRow.ofRow_ok h
  simp only [addRow, hassignment, howner, bind, Except.bind, if_pos hcurrent, hopen, pure,
    Except.pure, addValue_eq h]

/-- A row leaves the attributes of other owners as they are. -/
theorem assignedTo_concat (xs : List AssignmentRow) (x : AssignmentRow) :
    assignedTo (xs ++ [x]) = (ByOwner.set (assignedTo xs) x.owner
      (assignedIn (xs.filter (·.owner = x.owner) ++ [x])) : ByOwner AssignedAttribute) := by
  funext owner
  by_cases howner : owner = x.owner
  · simp [assignedTo, ByOwner.set, howner]
  · simp [assignedTo, ByOwner.set, howner, Ne.symm howner]

theorem Groups.addRow (h : Groups xs groups) (ordered : Ordered (xs ++ [x]))
    (hrow : AssignmentRow.ofRow row = .ok x) :
    ∃ groups', groups.addRow row = .ok groups' ∧ Groups (xs ++ [x]) groups' := by
  by_cases hcurrent : groups.current = some x.assignment
  · obtain rfl | ⟨xs, y, rfl⟩ := xs.eq_nil_or_concat
    · rw [h.current] at hcurrent
      cases hcurrent
    · rw [List.concat_eq_append] at h ordered ⊢
      have hsame : y.assignment = x.assignment := by simpa [h.current] using hcurrent
      have howner : y.owner = x.owner := ordered.oneOwner y (by simp) x (by simp) hsame
      have hown : (xs ++ [y]).filter (·.owner = x.owner) =
          xs.filter (·.owner = x.owner) ++ [y] := by simp [howner]
      have hcontiguous : Contiguous ((xs.filter (·.owner = x.owner) ++ [y]).map (·.assignment)) := by
        rw [← hown]
        refine ordered.contiguous.of_sublist (List.Sublist.map _ ?_)
        exact List.filter_sublist.trans (List.sublist_append_left _ _)
      obtain ⟨before, a, hbefore, hafter⟩ := assignedIn_continued hcontiguous hsame
      have hopen : groups.byOwner x.owner = before ++ [a] := by
        rw [h.byOwner, assignedTo, hown, hbefore]
      refine ⟨_, addRow_continued hrow hcurrent hopen, ?_, by simp⟩
      rw [assignedTo_concat, hown, hafter, h.byOwner]
  · have hnew : x.assignment ∉ xs.map (·.assignment) := by
      intro hseen
      obtain rfl | ⟨xs, y, rfl⟩ := xs.eq_nil_or_concat
      · cases hseen
      · rw [List.concat_eq_append] at h ordered hseen
        have hsame : y.assignment = x.assignment := ordered.contiguous.row_before hseen
        exact hcurrent (by simp [h.current, hsame])
    have hown : x.assignment ∉ (xs.filter (·.owner = x.owner)).map (·.assignment) :=
      fun hseen => hnew (List.map_subset _ (List.filter_subset_self _) hseen)
    refine ⟨_, addRow_opened hrow hcurrent, ?_, by simp⟩
    rw [assignedTo_concat, assignedIn_opened hown, h.byOwner]
    rfl

theorem Groups.addRows {rows : List Row} {done : List AssignmentRow} (h : Groups done groups)
    (ordered : Ordered (done ++ xs))
    (hrows : List.Forall₂ (fun row x => AssignmentRow.ofRow row = .ok x) rows xs) :
    ∃ groups', rows.foldlM Assignments.addRow groups = .ok groups' ∧ Groups (done ++ xs) groups' := by
  induction hrows generalizing done groups with
  | nil => exact ⟨groups, rfl, by rwa [List.append_nil]⟩
  | @cons row x rows xs hrow _ ih =>
    have happend : done ++ x :: xs = done ++ [x] ++ xs := by simp
    rw [happend] at ordered ⊢
    have hfirst : Ordered (done ++ [x]) := ordered.of_sublist (List.sublist_append_left _ _)
    obtain ⟨next, hnext, hgroups⟩ := h.addRow hfirst hrow
    obtain ⟨groups', hrest, hgroups'⟩ := ih hgroups ordered
    exact ⟨groups', by rw [List.foldlM_cons, hnext]; exact hrest, hgroups'⟩

/-- The rows of all owners are read into the attributes of each. -/
theorem ofRows_eq {rows : List Row} (hrows : rows.mapM AssignmentRow.ofRow = .ok xs)
    (ordered : Ordered xs) : ofRows rows = .ok (assignedTo xs) := by
  obtain ⟨groups, hfold, hgroups⟩ := groups_start.addRows ordered (Result.forall₂_of_mapM hrows)
  rw [ofRows, hfold, ← List.nil_append xs, ← hgroups.byOwner]
  rfl

end Assignments

end ShopRelay.Database
