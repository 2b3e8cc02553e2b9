import Sonde.Lib.Bytes

namespace Sonde.Gateway
open Lib

structure SensorDescriptor where
  sensorType : BitVec 8
  sensorId : BitVec 8
  label : Option String
  deriving DecidableEq, Repr

structure NodeInfo where
  keyHint : BitVec 16
  assignedProgramHash : Option Bytes
  currentProgramHash : Option Bytes
  desiredScheduleIntervalS : Option Nat
  scheduleIntervalS : Nat
  firmwareAbiVersion : Option Nat
  firmwareVersion : Option String
  rfChannel : Option Nat
  sensors : List SensorDescriptor
  registeredByPhoneId : Option Nat
  keyVersion : Nat
  deriving DecidableEq, Repr

structure NodeRecord extends NodeInfo where
  nodeId : String
  psk : Bytes32
  deriving DecidableEq, Repr

def NodeRecord.new (nodeId : String) (keyHint : BitVec 16) (psk : Bytes32) : NodeRecord where
  nodeId := nodeId
  keyHint := keyHint
  psk := psk
  assignedProgramHash := none
  currentProgramHash := none
  desiredScheduleIntervalS := some 60
  scheduleIntervalS := 60
  firmwareAbiVersion := none
  firmwareVersion := none
  rfChannel := none
  sensors := []
  registeredByPhoneId := none
  keyVersion := 0

inductive PhonePskStatus where
  | active | revoked
  deriving DecidableEq, Repr

structure PhoneInfo where
  phoneKeyHint : BitVec 16
  label : String
  issuedAt : Int
  status : PhonePskStatus
  keyVersion : Nat

structure PhonePskRecord extends PhoneInfo where
  phoneId : Nat
  psk : Bytes32

def phoneLabelMaxBytes : Nat := 64

inductive VerificationProfile where
  | resident | ephemeral
  deriving DecidableEq, Repr

structure ProgramRecord where
  hash : Bytes
  image : Bytes
  size : Nat
  verificationProfile : VerificationProfile
  abiVersion : Option Nat
  sourceFilename : Option String
  decoderImage : Option Bytes

end Sonde.Gateway
