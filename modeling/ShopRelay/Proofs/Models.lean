import ShopRelay.Catalog
import ShopRelay.Commerce
import ShopRelay.Delivery
import ShopRelay.Proofs.Json.Records
import ShopRelay.Service.Contract
import ShopRelay.Webhook

/-!
The types that are stored, or exchanged as JSON. What is read as one of them, in whatever shape, is
written in one shape that reads back as the same and is written the same again.
-/

namespace ShopRelay

open Json Service

instance : Webhook.codec.Stable :=
  Record.stable_codec (Record.stable_as fun _ => rfl) (by decide)

instance : App.codec.Stable :=
  Record.stable_codec (Record.stable_as fun _ => rfl) (by decide)

theorem DeliveryStatus.ofName_name (s : DeliveryStatus) : ofName? s.name = some s := by
  cases s <;> rfl

instance : DeliveryStatus.codec.Stable := Codec.stable_choice DeliveryStatus.ofName_name

instance : Payload.codec.Stable :=
  Record.stable_codec (Record.stable_as fun _ => rfl) (by decide)

instance : Delivery.codec.Stable :=
  Record.stable_codec (Record.stable_as fun _ => rfl) (by decide)

theorem InputType.ofName_name (t : InputType) : ofName? t.name = some t := by
  cases t <;> decide

instance : InputType.codec.Stable := Codec.stable_choice InputType.ofName_name

instance : Attribute.codec.Stable :=
  Record.stable_codec (Record.stable_as fun _ => rfl) (by decide)

instance : AttributeValue.codec.Stable :=
  Record.stable_codec (Record.stable_as fun _ => rfl) (by decide)

instance : AssignedAttribute.codec.Stable :=
  Record.stable_codec (Record.stable_as fun _ => rfl) (by decide)

instance : ProductVariant.codec.Stable :=
  Record.stable_codec (Record.stable_as fun _ => rfl) (by decide)

instance : Product.codec.Stable :=
  Record.stable_codec (Record.stable_as fun _ => rfl) (by decide)

instance : Money.codec.Stable :=
  Record.stable_tagged (Record.stable_as fun _ => rfl) (by decide)

instance : GatewaySetting.codec.Stable :=
  Record.stable_codec (Record.stable_as fun _ => rfl) (by decide)

instance : PaymentGateway.codec.Stable :=
  Record.stable_codec (Record.stable_as fun _ => rfl) (by decide)

instance : Payment.codec.Stable :=
  Record.stable_codec (Record.stable_as fun _ => rfl) (by decide)

instance : PaymentMethod.codec.Stable :=
  Record.stable_codec (Record.stable_as fun _ => rfl) (by decide)

instance : PaymentOutcome.codec.Stable :=
  Record.stable_codec (Record.stable_as fun _ => rfl) (by decide)

instance : ShippingMethod.codec.Stable :=
  Record.stable_codec (Record.stable_as fun _ => rfl) (by decide)

instance : TaxLine.codec.Stable :=
  Record.stable_codec (Record.stable_as fun _ => rfl) (by decide)

instance : Taxes.codec.Stable :=
  Record.stable_codec (Record.stable_as fun _ => rfl) (by decide)

instance : (Record.standard "payload" Codec.value .null).Stable :=
  Record.stable_standard rfl

instance : TriggerRequest.codec.Stable :=
  Record.stable_codec (Record.stable_as fun _ => rfl) (by decide)

instance : ScheduledDelivery.codec.Stable :=
  Record.stable_codec (Record.stable_as fun _ => rfl) (by decide)

instance : ReindexRequest.codec.Stable :=
  Record.stable_codec (Record.stable_as fun _ => rfl) (by decide)

/-- The codecs of the types that are stored or exchanged, and of their parts. -/
inductive Exchanged : {α : Type} → Codec α → Prop where
  | webhook : Exchanged Webhook.codec
  | app : Exchanged App.codec
  | payload : Exchanged Payload.codec
  | delivery : Exchanged Delivery.codec
  | deliveryStatus : Exchanged DeliveryStatus.codec
  | product : Exchanged Product.codec
  | productVariant : Exchanged ProductVariant.codec
  | assignedAttribute : Exchanged AssignedAttribute.codec
  | productAttribute : Exchanged Attribute.codec
  | attributeValue : Exchanged AttributeValue.codec
  | inputType : Exchanged InputType.codec
  | money : Exchanged Money.codec
  | paymentGateway : Exchanged PaymentGateway.codec
  | gatewaySetting : Exchanged GatewaySetting.codec
  | payment : Exchanged Payment.codec
  | paymentOutcome : Exchanged PaymentOutcome.codec
  | paymentMethod : Exchanged PaymentMethod.codec
  | shippingMethod : Exchanged ShippingMethod.codec
  | taxes : Exchanged Taxes.codec
  | taxLine : Exchanged TaxLine.codec
  | triggerRequest : Exchanged TriggerRequest.codec
  | scheduledDelivery : Exchanged ScheduledDelivery.codec
  | reindexRequest : Exchanged ReindexRequest.codec

variable {α : Type} {c : Codec α}

namespace Exchanged

theorem stable (h : Exchanged c) : c.Stable := by
  cases h <;> infer_instance

/-- What a text of whole numbers is read as is what the text that is written for it is read as, and
then the same text is written again. -/
theorem read_as_written (exchanged : Exchanged c) {s : String} {x : α}
    (whole : (Tree.parse? s).all Tree.wholeNumbers = true) (h : c.parse? s = some x) :
    c.parse? (c.print x) = some x ∧
      (c.parse? (c.print x)).map c.print = some (c.print x) := by
  have : c.Stable := exchanged.stable
  have hread : c.parse? (c.print x) = some x := c.parse_print whole h
  exact ⟨hread, by rw [hread, Option.map_some]⟩

namespace Sample

/-- A payload of a leap second, in other notations than the written ones and with a member more. -/
def leapPayload : String :=
  "\x7b\"created_at\":\"2016-12-31 18:59:60.5-05:00\",\"payload\":\"\\u00e9\",\"tries\":-0," ++
    "\"id\":\"urn:uuid:00000000-0000-0000-0000-00000000000A\"\x7d"

/-- The text that is written for it. -/
def leapPayloadWritten : String :=
  "\x7b\"id\":\"00000000-0000-0000-0000-00000000000a\",\"payload\":\"é\"," ++
    "\"created_at\":\"2016-12-31T23:59:60.500Z\"\x7d"

/-- A shipping method without a name whose members are told by their places. -/
def placedMethod : String := "[\"7\",null,[\"1.50\",\"USD\"],3]"

def placedMethodWritten : String :=
  "\x7b\"id\":\"7\",\"name\":null,\"price\":\x7b\"_type\":\"Money\",\"amount\":\"1.50\"," ++
    "\"currency\":\"USD\"\x7d,\"maximum_delivery_days\":3\x7d"

end Sample

open Sample

theorem read_as_written_reshaped :
    (Exchanged Payload.codec ∧ (Tree.parse? leapPayload).all Tree.wholeNumbers = true ∧
      ∃ p, Payload.codec.parse? leapPayload = some p ∧
        Payload.codec.parse? leapPayloadWritten = some p) ∧
    Exchanged ShippingMethod.codec ∧ (Tree.parse? placedMethod).all Tree.wholeNumbers = true ∧
      ∃ m, ShippingMethod.codec.parse? placedMethod = some m ∧ m.name = none ∧
        m.price.amount.mantissa = 150 ∧ m.price.amount.scale = 2 ∧
        ShippingMethod.codec.parse? placedMethodWritten = some m := by
  have wholePayload : (Tree.parse? leapPayload).all Tree.wholeNumbers = true := by decide +kernel
  have wholeMethod : (Tree.parse? placedMethod).all Tree.wholeNumbers = true := by decide +kernel
  have hpayload : (Payload.codec.parse? leapPayload).map Payload.codec.print =
      some leapPayloadWritten := by decide +kernel
  have hmethod : (ShippingMethod.codec.parse? placedMethod).map
      (fun m => (m.name, m.price.amount.mantissa, m.price.amount.scale,
        ShippingMethod.codec.print m)) = some (none, 150, 2, placedMethodWritten) := by decide +kernel
  obtain ⟨p, hp, hprint⟩ := Option.map_eq_some_iff.mp hpayload
  obtain ⟨m, hm, hparts⟩ := Option.map_eq_some_iff.mp hmethod
  simp only [Prod.mk.injEq] at hparts
  obtain ⟨hname, hmantissa, hscale, hplaced⟩ := hparts
  refine ⟨⟨.payload, wholePayload, p, hp, ?_⟩, .shippingMethod, wholeMethod, m, hm, hname,
    hmantissa, hscale, ?_⟩
  · rw [← hprint]
    exact (read_as_written .payload wholePayload hp).1
  · rw [← hplaced]
    exact (read_as_written .shippingMethod wholeMethod hm).1

end Exchanged

end ShopRelay
