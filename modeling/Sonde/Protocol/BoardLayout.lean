import Sonde.Protocol.Messages

namespace Sonde.Protocol.Board
open Lib

structure Layout where
  i2c0Sda : Option Nat
  i2c0Scl : Option Nat
  oneWireData : Option Nat
  batteryAdc : Option Nat
  sensorEnable : Option Nat

def Layout.legacyCompat : Layout := ⟨some 0, some 1, none, none, none⟩

def maxGpio : Nat := 21

def validateGpio (pin : Option Nat) (field : String) : Except String Unit :=
  if pin.any (· > maxGpio) then .error (field ++ " must be in GPIO range 0-21") else .ok ()

def Layout.validate (layout : Layout) : Except String Unit := do
  validateGpio layout.i2c0Sda "i2c0_sda"
  validateGpio layout.i2c0Scl "i2c0_scl"
  validateGpio layout.oneWireData "one_wire_data"
  validateGpio layout.batteryAdc "battery_adc"
  validateGpio layout.sensorEnable "sensor_enable"
  match layout.i2c0Sda, layout.i2c0Scl with
  | some sda, some scl => if sda = scl then .error "i2c0_sda and i2c0_scl must be different pins" else .ok ()
  | some _, none | none, some _ => .error "i2c0_sda and i2c0_scl must both be assigned or both be unassigned"
  | none, none => .ok ()

def valueForPin : Option Nat → Cbor
  | some pin => .unsigned pin
  | none => .null

def decodePin (value : Cbor) (field : String) : Except String (Option Nat) :=
  match value with
  | .null => .ok none
  | _ =>
    match (asU64 value).filter (· < 2 ^ 8) with
    | some pin => .ok (some pin)
    | none => .error (field ++ " must be uint or null")

def Layout.pairs (layout : Layout) : Fields :=
  [(1, valueForPin layout.i2c0Sda), (2, valueForPin layout.i2c0Scl), (3, valueForPin layout.oneWireData),
    (4, valueForPin layout.batteryAdc), (5, valueForPin layout.sensorEnable)]

def encodeBoardLayoutCbor (layout : Layout) : Except String Bytes := do
  layout.validate
  return cborEncodeMap layout.pairs

-- The local variables of `decode_board_layout_cbor`.
structure LayoutFields where
  i2c0Sda : Option (Option Nat) := none
  i2c0Scl : Option (Option Nat) := none
  oneWireData : Option (Option Nat) := none
  batteryAdc : Option (Option Nat) := none
  sensorEnable : Option (Option Nat) := none

def readLayoutField (fields : LayoutFields) (entry : Cbor × Cbor) : Except String LayoutFields :=
  match asU64 entry.1 with
  | none => .error "board_layout key must be an unsigned integer"
  | some 1 => do return { fields with i2c0Sda := some (← decodePin entry.2 "i2c0_sda") }
  | some 2 => do return { fields with i2c0Scl := some (← decodePin entry.2 "i2c0_scl") }
  | some 3 => do return { fields with oneWireData := some (← decodePin entry.2 "one_wire_data") }
  | some 4 => do return { fields with batteryAdc := some (← decodePin entry.2 "battery_adc") }
  | some 5 => do return { fields with sensorEnable := some (← decodePin entry.2 "sensor_enable") }
  | some _ => .ok fields

def present (pin : Option (Option Nat)) (field : String) : Except String (Option Nat) :=
  match pin with
  | some pin => .ok pin
  | none => .error ("board_layout missing " ++ field)

def LayoutFields.layout (fields : LayoutFields) : Except String Layout := do
  let i2c0Sda ← present fields.i2c0Sda "i2c0_sda"
  let i2c0Scl ← present fields.i2c0Scl "i2c0_scl"
  let oneWireData ← present fields.oneWireData "one_wire_data"
  let batteryAdc ← present fields.batteryAdc "battery_adc"
  let sensorEnable ← present fields.sensorEnable "sensor_enable"
  return ⟨i2c0Sda, i2c0Scl, oneWireData, batteryAdc, sensorEnable⟩

def decodeBoardLayoutCbor (items : Cbor.ItemReader) (data : Bytes) : Except String Layout := do
  let (value, remaining) ← items.readItem data
  if remaining ≠ [] then .error "board_layout has trailing bytes"
  else
    match value with
    | .map entries => do
      let fields ← entries.foldlM readLayoutField {}
      let layout ← fields.layout
      layout.validate
      return layout
    | _ => .error "board_layout must be a CBOR map"

end Sonde.Protocol.Board
