import Sonde.Gateway.Registry
import Sonde.Protocol.Messages

namespace Sonde.Gateway
open Lib Protocol

-- One character for each byte. It does not decode UTF-8: on ASCII it gives the text, on other bytes a text that they alone
-- have.
def textString (utf8 : Bytes) : String := String.ofList (utf8.map fun b => Char.ofNat b.toNat)

def asNatBelow (bound : Nat) (value : Cbor) : Option Nat := (asU64 value).filter (· < bound)

def asArray : Cbor → Option (List Cbor)
  | .array items => some items
  | _ => none

def asMap : Cbor → Option (List (Cbor × Cbor))
  | .map entries => some entries
  | _ => none

structure PairingRequestFields where
  nodeId : Bytes
  nodeKeyHint : BitVec 16
  nodePsk : Bytes32
  rfChannel : Nat
  timestamp : Nat
  sensors : List SensorDescriptor

-- The local variables of the loop over one sensor's map.
structure SensorFields where
  sensorType : Option Nat := none
  sensorId : Option Nat := none
  label : Option Bytes := none

def readSensorField (fields : SensorFields) (entry : Cbor × Cbor) : Option SensorFields :=
  match asU64 entry.1 with
  | some 1 => some { fields with sensorType := asNatBelow (2 ^ 8) entry.2 }
  | some 2 => some { fields with sensorId := asNatBelow (2 ^ 8) entry.2 }
  | some 3 =>
    match asText entry.2 with
    | some s => if s.length > 64 then none else some { fields with label := some s }
    | none => some fields
  | _ => some fields

def readSensor (sensors : List SensorDescriptor) (item : Cbor) : Option (List SensorDescriptor) :=
  match asMap item with
  | none => some sensors
  | some entries => do
    let fields ← entries.foldlM readSensorField {}
    match fields.sensorType, fields.sensorId with
    | some sensorType, some sensorId =>
      if 1 ≤ sensorType ∧ sensorType ≤ 4 then
        some (sensors ++ [⟨BitVec.ofNat 8 sensorType, BitVec.ofNat 8 sensorId, fields.label.map textString⟩])
      else none
    | _, _ => some sensors

-- The local variables of `parse_pairing_request`.
structure PairingFields where
  nodeId : Option Bytes := none
  nodeKeyHint : Option Nat := none
  nodePsk : Option Bytes32 := none
  rfChannel : Option Nat := none
  timestamp : Option Nat := none
  sensors : List SensorDescriptor := []

def readPairingField (fields : PairingFields) (entry : Cbor × Cbor) : Option PairingFields := do
  let key ← asU64 entry.1
  match key with
  | 1 => some { fields with nodeId := asText entry.2 }
  | 2 => some { fields with nodeKeyHint := asNatBelow (2 ^ 16) entry.2 }
  | 3 =>
    match asBytes entry.2 with
    | some b =>
      if b.length = 32 then some { fields with nodePsk := some (BitVec.ofNat 256 (ofBigEndian b)) }
      else some fields
    | none => some fields
  | 4 => some { fields with rfChannel := asNatBelow (2 ^ 8) entry.2 }
  | 5 =>
    match asArray entry.2 with
    | some items => do
      let sensors ← items.foldlM readSensor fields.sensors
      some { fields with sensors }
    | none => some fields
  | 6 => some { fields with timestamp := asU64 entry.2 }
  | _ => some fields

def parsePairingRequest (reader : Cbor.Reader) (cborBytes : Bytes) : Option PairingRequestFields := do
  let pairingCbor ← (reader.fromReader cborBytes).toOption
  let pairingMap ← asMap pairingCbor
  let fields ← pairingMap.foldlM readPairingField {}
  let nodeId ← fields.nodeId
  let nodeKeyHint ← fields.nodeKeyHint
  let nodePsk ← fields.nodePsk
  let rfChannel ← fields.rfChannel
  let timestamp ← fields.timestamp
  if nodeId = [] ∨ nodeId.length > 64 then none
  else if ¬(1 ≤ rfChannel ∧ rfChannel ≤ 13) then none
  else some ⟨nodeId, BitVec.ofNat 16 nodeKeyHint, nodePsk, rfChannel, timestamp, fields.sensors⟩

end Sonde.Gateway
