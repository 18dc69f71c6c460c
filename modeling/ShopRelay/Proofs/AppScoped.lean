import ShopRelay.AppScoped
import ShopRelay.Proofs.Text.Base64
import ShopRelay.Proofs.Text.Digits
import ShopRelay.Proofs.Text.Split
import ShopRelay.Proofs.Text.Utf8

/-!
Ids of the things of apps are taken apart again, unless the app's own id is empty or has a colon in
it. No two things have one id, not even those whose ids cannot be taken apart. The texts that are
taken apart are told by a grammar, in which only the number can be written in several ways.
-/

namespace ShopRelay.AppScoped

open Text (intDigits isInt64 split)

theorem colon_not_mem_mark : ':' ∉ mark.toList := by decide

theorem colon_not_mem_intDigits (n : Int) : ':' ∉ intDigits n := by
  intro h
  rcases Text.mem_intDigits h with h | h
  · cases h
  · cases h

theorem colon_not_mem_signed {cs : List Char} {n : Int} (h : Text.Signed cs n) : ':' ∉ cs := by
  intro hcolon
  rcases h.mem hcolon with h | h | h
  · cases h
  · cases h
  · cases h

theorem toList_compose (x : AppScoped) : (compose x).toList =
    mark.toList ++ ':' :: (intDigits x.appId ++ ':' :: x.localId.toList) := by
  simp [compose]

theorem split_compose (x : AppScoped) : split ':' (compose x).toList =
    mark.toList :: intDigits x.appId :: split ':' x.localId.toList := by
  rw [toList_compose, Text.split_append colon_not_mem_mark,
    Text.split_append (colon_not_mem_intDigits x.appId)]

/-- An id of an app that can be found again. -/
def Resolvable (localId : String) : Prop := localId ≠ "" ∧ ':' ∉ localId.toList

instance (localId : String) : Decidable (Resolvable localId) :=
  inferInstanceAs (Decidable (_ ∧ _))

theorem split?_compose {x : AppScoped} (h : isInt64 x.appId = true) :
    split? (compose x) = if Resolvable x.localId then .ok x else .error ⟨compose x⟩ := by
  unfold split?
  rw [split_compose]
  by_cases hcolon : ':' ∈ x.localId.toList
  · obtain ⟨first, second, others, hsplit⟩ := Text.split_marked hcolon
    rw [hsplit, if_neg fun hr => hr.2 hcolon]
  · rw [Text.split_unmarked hcolon]
    by_cases hempty : x.localId = ""
    · rw [if_neg fun hr => hr.1 hempty]
      simp [hempty]
    · have hfilled : x.localId.toList ≠ [] := by simpa using hempty
      rw [if_pos ⟨hempty, hcolon⟩]
      simp [hfilled, Text.readInt64_intDigits h]

/-- The first two colons end the mark and the id of the app. -/
theorem compose_inj {x y : AppScoped} (h : compose x = compose y) : x = y := by
  have hsegments := split_compose x
  rw [h, split_compose y] at hsegments
  have hdigits : intDigits y.appId = intDigits x.appId :=
    (List.cons.inj (List.cons.inj hsegments).2).1
  have hlist := congrArg String.toList h
  rw [toList_compose, toList_compose, hdigits] at hlist
  have hlocal : x.localId.toList = y.localId.toList := by simpa using hlist
  obtain ⟨appId, localId⟩ := x
  obtain ⟨appId', localId'⟩ := y
  cases Text.intDigits_inj hdigits
  cases String.toList_injective hlocal
  rfl

theorem ofShippingId_encode (s : String) :
    ofShippingId? (Text.Base64.encode (Text.encodeUtf8 s)) = split? s := by
  rw [ofShippingId?, Text.Base64.decode_encode, Option.bind_some, Text.decodeUtf8_encodeUtf8]

theorem encoded_inj {s t : String}
    (h : Text.Base64.encode (Text.encodeUtf8 s) = Text.Base64.encode (Text.encodeUtf8 t)) :
    s = t := by
  have hbytes : some (Text.encodeUtf8 s) = some (Text.encodeUtf8 t) := by
    rw [← Text.Base64.decode_encode, h, Text.Base64.decode_encode]
  have htext : some s = some t := by
    rw [← Text.decodeUtf8_encodeUtf8, Option.some.inj hbytes, Text.decodeUtf8_encodeUtf8]
  exact Option.some.inj htext

theorem ofPaymentId_toPaymentId {app : App} (inRange : isInt64 app.id = true) (localId : String) :
    (ofPaymentId? (toPaymentId app localId)).toOption =
      if Resolvable localId then some ⟨app.id, localId⟩ else none := by
  rw [ofPaymentId?, toPaymentId, split?_compose inRange]
  split
  · rfl
  · rfl

theorem ofShippingId_toShippingId {app : App} (inRange : isInt64 app.id = true)
    (localId : String) : (ofShippingId? (toShippingId app localId)).toOption =
      if Resolvable localId then some ⟨app.id, localId⟩ else none := by
  rw [toShippingId, ofShippingId_encode]
  exact ofPaymentId_toPaymentId inRange localId

/-- An id leads back to the app and the thing that it was composed for when the thing's own id is
neither empty nor has a colon, and otherwise to nothing; and no two things have one id. -/
theorem composed_ids_lead_back {app : App} (inRange : isInt64 app.id = true) (localId : String) :
    (ofPaymentId? (toPaymentId app localId)).toOption =
      (if localId ≠ "" ∧ ':' ∉ localId.toList then some ⟨app.id, localId⟩ else none) ∧
    (ofShippingId? (toShippingId app localId)).toOption =
      (if localId ≠ "" ∧ ':' ∉ localId.toList then some ⟨app.id, localId⟩ else none) ∧
    ∀ (app' : App) (localId' : String),
      (toPaymentId app localId = toPaymentId app' localId' →
        app.id = app'.id ∧ localId = localId') ∧
      (toShippingId app localId = toShippingId app' localId' →
        app.id = app'.id ∧ localId = localId') := by
  refine ⟨ofPaymentId_toPaymentId inRange localId, ofShippingId_toShippingId inRange localId,
    fun app' localId' => ⟨fun h => ?_, fun h => ?_⟩⟩
  · exact AppScoped.mk.inj (compose_inj h)
  · exact AppScoped.mk.inj (compose_inj (encoded_inj h))

namespace Sample

/-- The app with the least id. -/
def farApp : App := ⟨Text.minInt64, "acme.app", "Acme", true, []⟩

end Sample

open Sample

theorem composed_ids_lead_back_least :
    isInt64 farApp.id = true ∧
    (ofPaymentId? (toPaymentId farApp "é\n😀")).toOption = some ⟨Text.minInt64, "é\n😀"⟩ ∧
    (ofShippingId? (toShippingId farApp "é\n😀")).toOption = some ⟨Text.minInt64, "é\n😀"⟩ ∧
    (ofShippingId? (toShippingId farApp "a:b")).toOption = none ∧
    toShippingId farApp "a:b" ≠ toShippingId farApp "a" := by
  have inRange : isInt64 farApp.id = true := by decide
  obtain ⟨hpayment, hshipping, -⟩ := composed_ids_lead_back inRange "é\n😀"
  obtain ⟨-, hmarked, hdistinct⟩ := composed_ids_lead_back inRange "a:b"
  rw [if_pos (by decide)] at hpayment hshipping
  rw [if_neg (by decide)] at hmarked
  have hne : "a:b" ≠ "a" := by decide
  exact ⟨inRange, hpayment, hshipping, hmarked, fun h => hne ((hdistinct farApp "a").2 h).2⟩

/-- A text that names a thing of an app: the mark, a number of 64 bits and the thing's own id, with
colons between them and nowhere else. -/
structure Names (s number : String) (x : AppScoped) : Prop where
  text_eq : s = "app:" ++ number ++ ":" ++ x.localId
  number_reads : Text.Signed number.toList x.appId
  inRange : isInt64 x.appId = true
  resolvable : Resolvable x.localId

variable {s t number : String} {x : AppScoped} {e : InvalidAppId}

theorem Names.segments (h : Names s number x) :
    split ':' s.toList = [mark.toList, number.toList, x.localId.toList] := by
  have hlist : s.toList = mark.toList ++ ':' :: (number.toList ++ ':' :: x.localId.toList) := by
    simp [h.text_eq, mark]
  rw [hlist, Text.split_append colon_not_mem_mark,
    Text.split_append (colon_not_mem_signed h.number_reads), Text.split_unmarked h.resolvable.2]

theorem split?_eq_ok_iff : split? s = .ok x ↔ ∃ number, Names s number x := by
  constructor
  · intro h
    unfold split? at h
    split at h
    · next first number localId hsplit =>
      split at h
      · next hmark =>
        obtain ⟨rfl, hfilled⟩ := hmark
        obtain ⟨-, hunmarked, hjoined⟩ := Text.split_eq_iff.mp hsplit
        split at h
        · next appId hread =>
          cases h
          obtain ⟨hnumber, hrange⟩ := Text.readInt64_eq_some_iff.mp hread
          refine ⟨String.ofList number, ?_, hnumber, hrange, ?_, ?_⟩
          · apply String.toList_injective
            simp [← hjoined, mark]
          · simpa using hfilled
          · simpa using hunmarked localId (by simp)
        · cases h
      · cases h
    · cases h
  · rintro ⟨number, h⟩
    have hfilled : x.localId.toList ≠ [] := by simpa using h.resolvable.1
    have hread : Text.readInt64? number = some x.appId :=
      Text.readInt64_eq_some_iff.mpr ⟨h.number_reads, h.inRange⟩
    unfold split?
    rw [h.segments]
    simp [hfilled, hread]

/-- What is refused is named as it was given. -/
theorem split?_error (h : split? s = .error e) : e = ⟨s⟩ := by
  unfold split? at h
  split at h
  · split at h
    · split at h
      · cases h
      · exact (Except.error.inj h).symm
    · exact (Except.error.inj h).symm
  · exact (Except.error.inj h).symm

theorem split?_eq_error_iff :
    split? s = .error e ↔ (¬∃ number x, Names s number x) ∧ e.text = s := by
  constructor
  · intro h
    refine ⟨?_, by rw [split?_error h]⟩
    rintro ⟨number, x, hnames⟩
    rw [split?_eq_ok_iff.mpr ⟨number, hnames⟩] at h
    cases h
  · rintro ⟨hnone, htext⟩
    cases hread : split? s with
    | ok x =>
      obtain ⟨number, hnames⟩ := split?_eq_ok_iff.mp hread
      exact absurd ⟨number, x, hnames⟩ hnone
    | error e' =>
      rw [split?_error hread, ← htext]

/-- The number is the only part that can be written in several ways. -/
theorem compose_eq_iff (h : Names s number x) :
    compose x = s ↔ Text.Canonical number.toList := by
  rw [← Text.intDigits_eq_iff h.number_reads, ← String.toList_inj, toList_compose, h.text_eq]
  simp [mark]

theorem decoded_eq_some_iff : (Text.Base64.decode? s).bind Text.decodeUtf8? = some t ↔
    s = Text.Base64.encode (Text.encodeUtf8 t) := by
  simp only [Option.bind_eq_some_iff, Text.Base64.decode_eq_some_iff, Text.decodeUtf8_eq_some_iff,
    exists_eq_right]

/-- Base64 of a text is read as that text is; any other text is refused as it is. -/
theorem ofShippingId_cases (s : String) :
    (∃ t, s = Text.Base64.encode (Text.encodeUtf8 t) ∧ ofShippingId? s = split? t) ∨
      (∀ t, s ≠ Text.Base64.encode (Text.encodeUtf8 t)) ∧ ofShippingId? s = .error ⟨s⟩ := by
  unfold ofShippingId?
  cases hdecoded : (Text.Base64.decode? s).bind Text.decodeUtf8? with
  | none =>
    refine .inr ⟨fun t ht => ?_, rfl⟩
    rw [decoded_eq_some_iff.mpr ht] at hdecoded
    cases hdecoded
  | some t => exact .inl ⟨t, decoded_eq_some_iff.mp hdecoded, rfl⟩

theorem ofShippingId_eq_ok_iff : ofShippingId? s = .ok x ↔
    ∃ t number, s = Text.Base64.encode (Text.encodeUtf8 t) ∧ Names t number x := by
  obtain ⟨t, rfl, hread⟩ | ⟨hnone, hread⟩ := ofShippingId_cases s
  · rw [hread, split?_eq_ok_iff]
    constructor
    · rintro ⟨number, h⟩
      exact ⟨t, number, rfl, h⟩
    · rintro ⟨t', number, heq, h⟩
      rw [encoded_inj heq]
      exact ⟨number, h⟩
  · rw [hread]
    constructor
    · intro h
      cases h
    · rintro ⟨t, number, heq, -⟩
      exact absurd heq (hnone t)

theorem ofShippingId_eq_error_iff : ofShippingId? s = .error e ↔
    (∀ t, s ≠ Text.Base64.encode (Text.encodeUtf8 t)) ∧ e.text = s ∨
      ∃ t, s = Text.Base64.encode (Text.encodeUtf8 t) ∧ (¬∃ number x, Names t number x) ∧
        e.text = t := by
  obtain ⟨t, rfl, hread⟩ | ⟨hnone, hread⟩ := ofShippingId_cases s
  · rw [hread, split?_eq_error_iff]
    constructor
    · intro h
      exact .inr ⟨t, rfl, h⟩
    · rintro (⟨hnone, -⟩ | ⟨t', heq, h⟩)
      · exact absurd rfl (hnone t)
      · rw [encoded_inj heq]
        exact h
  · rw [hread]
    constructor
    · intro h
      exact .inl ⟨hnone, by rw [← Except.error.inj h]⟩
    · rintro (⟨-, htext⟩ | ⟨t, heq, -⟩)
      · rw [← htext]
      · exact absurd heq (hnone t)

/-- An id of a gateway is read when it is the mark, a number of 64 bits and the app's own id with
colons between them, and is composed again as it was when its number is in the canonical form. An id
of a shipping method is read when it is Base64 of such a text. What is refused is named as it was
given, or, if it is Base64 of another text, by that text. -/
theorem ids_read_by_grammar (s : String) :
    (∀ x, ofPaymentId? s = .ok x ↔ ∃ number, Names s number x) ∧
    (∀ e, ofPaymentId? s = .error e ↔ (¬∃ number x, Names s number x) ∧ e.text = s) ∧
    (∀ number x (app : App), Names s number x → app.id = x.appId →
      (toPaymentId app x.localId = s ↔ Text.Canonical number.toList)) ∧
    (∀ x, ofShippingId? s = .ok x ↔
      ∃ t number, s = Text.Base64.encode (Text.encodeUtf8 t) ∧ Names t number x) ∧
    ∀ e, ofShippingId? s = .error e ↔
      (∀ t, s ≠ Text.Base64.encode (Text.encodeUtf8 t)) ∧ e.text = s ∨
        ∃ t, s = Text.Base64.encode (Text.encodeUtf8 t) ∧ (¬∃ number x, Names t number x) ∧
          e.text = t := by
  refine ⟨fun x => split?_eq_ok_iff, fun e => split?_eq_error_iff, ?_,
    fun x => ofShippingId_eq_ok_iff, fun e => ofShippingId_eq_error_iff⟩
  intro number x app hnames hid
  rw [toPaymentId, hid]
  exact compose_eq_iff hnames

theorem ids_read_by_grammar_padded :
    Names "app:+007:é" "+007" ⟨7, "é"⟩ ∧
    ofPaymentId? "app:+007:é" = .ok ⟨7, "é"⟩ ∧
    toPaymentId { farApp with id := 7 } "é" ≠ "app:+007:é" ∧
    Names "app:-9223372036854775808:é" "-9223372036854775808" ⟨Text.minInt64, "é"⟩ ∧
    toPaymentId farApp "é" = "app:-9223372036854775808:é" ∧
    ofShippingId? (Text.Base64.encode (Text.encodeUtf8 "app:+007:é")) = .ok ⟨7, "é"⟩ := by
  have hpadded : Names "app:+007:é" "+007" ⟨7, "é"⟩ :=
    ⟨by decide, Text.signed_plus.mpr ⟨by decide, List.all_eq_true.mp (by decide), by decide⟩, by decide,
      by decide⟩
  have hleast : Names "app:-9223372036854775808:é" "-9223372036854775808" ⟨Text.minInt64, "é"⟩ :=
    ⟨by decide, Text.signed_minus.mpr ⟨by decide, List.all_eq_true.mp (by decide), by decide⟩, by decide,
      by decide⟩
  have hcanonical : Text.Canonical "-9223372036854775808".toList := by
    rw [← Text.intDigits_eq_iff hleast.number_reads]
    decide
  obtain ⟨hread, -, hagain, -⟩ := ids_read_by_grammar "app:+007:é"
  obtain ⟨-, -, hleastAgain, -⟩ := ids_read_by_grammar "app:-9223372036854775808:é"
  obtain ⟨-, -, -, hshipping, -⟩ :=
    ids_read_by_grammar (Text.Base64.encode (Text.encodeUtf8 "app:+007:é"))
  refine ⟨hpadded, (hread ⟨7, "é"⟩).mpr ⟨"+007", hpadded⟩, fun h => ?_, hleast,
    (hleastAgain "-9223372036854775808" ⟨Text.minInt64, "é"⟩ farApp hleast rfl).mpr hcanonical,
    (hshipping ⟨7, "é"⟩).mpr ⟨"app:+007:é", "+007", rfl, hpadded⟩⟩
  exact ((hagain "+007" ⟨7, "é"⟩ { farApp with id := 7 } hpadded rfl).mp h).unsigned _ rfl

end ShopRelay.AppScoped
