import BirdCode.Basic

/-! What a recovery reads of the attached disk images: whether the expected image is attached at the
expected mount point, and by which device. -/
namespace BirdCode.Workspace

section PropertyList

/-- `plist::Value`. -/
inductive Value
  | array (items : List Value)
  | dictionary (entries : List (String × Value))
  | boolean (value : Bool)
  | data (bytes : List UInt8)
  | date (seconds : ℤ)
  | real (bits : UInt64)
  | integer (value : ℤ)
  | string (value : String)
  | uid (value : UInt64)

def Value.asArray : Value → Option (List Value)
  | .array items => some items
  | _ => none

def Value.asDictionary : Value → Option (List (String × Value))
  | .dictionary entries => some entries
  | _ => none

def Value.asString : Value → Option String
  | .string value => some value
  | _ => none

end PropertyList

section Device

def maxRecoveryDeviceBytes : ℕ := 128

structure RepositorySnapshotMacOsDevice where
  diskNumber : UInt32
  partitionNumber : Option UInt32
  deriving DecidableEq

def devicePrefix : String := "/dev/disk"

/-- The path of a device, as it is written again. -/
def RepositorySnapshotMacOsDevice.path (device : RepositorySnapshotMacOsDevice) : String :=
  match device.partitionNumber with
  | none => devicePrefix ++ device.diskNumber.toNat.repr
  | some partition => devicePrefix ++ device.diskNumber.toNat.repr ++ "s" ++ partition.toNat.repr

/-- `str::strip_prefix`. -/
def stripPrefix (start text : List Char) : Option (List Char) :=
  if start <+: text then some (text.drop start.length) else none

/-- `str::split_once`. -/
def splitOnce (separator : Char) (text : List Char) : Option (List Char × List Char) :=
  if separator ∈ text then
    some (text.takeWhile (· ≠ separator), (text.dropWhile (· ≠ separator)).tail)
  else none

/-- `str::parse::<u32>` of decimal digits. -/
def parseU32 (digits : List Char) : Option UInt32 :=
  if Nat.ofDigitChars 10 digits 0 < 2 ^ 32 then some (UInt32.ofNat (Nat.ofDigitChars 10 digits 0))
  else none

def isDecimal (text : List Char) : Bool := !text.isEmpty && text.all Char.isDigit

/-- The digits of the disk, and those of the partition behind the only `s`. -/
def splitDevice (body : List Char) : Option (List Char × Option (List Char)) :=
  match splitOnce 's' body with
  | some (disk, partition) => if 's' ∈ partition then none else some (disk, some partition)
  | none => some (body, none)

def parseCanonicalDevicePath (value : String) : Option RepositorySnapshotMacOsDevice := do
  guard (value ≠ "" ∧ value.utf8ByteSize ≤ maxRecoveryDeviceBytes)
  let body ← stripPrefix devicePrefix.toList value.toList
  let (disk, partition) ← splitDevice body
  guard (isDecimal disk = true ∧ partition.all isDecimal = true)
  let diskNumber ← parseU32 disk
  let partitionNumber ← partition.mapM parseU32
  let device := ⟨diskNumber, partitionNumber⟩
  guard (device.path = value)
  return device

def validDevicePath (value : String) : Bool := (parseCanonicalDevicePath value).isSome

end Device

section Decode

def maxRecoveryPlistBytes : ℕ := 4 * 1024 * 1024
def maxRecoveryImages : ℕ := 128
def maxRecoveryEntities : ℕ := 256

/-- The blocks that the decoding of a topology reports. -/
inductive RecoveryTopologyBlock
  | malformedOrUnboundedPlist | nonUtf8ExpectedPath
  | expectedImageAppearsMultipleTimes | expectedMountAppearsMultipleTimes
  | expectedMountBelongsToDifferentImage | expectedImageAttachedWithoutExpectedMount
  | invalidMountedDeviceIdentity
  deriving DecidableEq

inductive RecoveryTopologyObservation
  | noExpectedImageOrMountAttached
  | exactImageMounted (leafDeviceIdentifier : String)
  deriving DecidableEq

/-- What the loops have seen. -/
structure Scan where
  expectedImageCount : ℕ
  expectedMountCount : ℕ
  matchingDevice : Option String
  totalEntities : ℕ

variable (expectedImage expectedMount : String)

/-- `entity.get("mount-point").and_then(Value::as_string)`, and the same of other fields. -/
def textField (dictionary : List (String × Value)) (field : String) : Option String :=
  (dictionary.lookup field).bind Value.asString

def scanEntity (imageMatches : Bool) (scan : Scan) (entity : Value) :
    Except RecoveryTopologyBlock Scan := do
  let dictionary ← expect .malformedOrUnboundedPlist entity.asDictionary
  if textField dictionary "mount-point" = some expectedMount then
    ensure (imageMatches = true) .expectedMountBelongsToDifferentImage
    let device ← expect .invalidMountedDeviceIdentity
      ((textField dictionary "dev-entry").filter validDevicePath)
    return { scan with
      expectedMountCount := scan.expectedMountCount + 1
      matchingDevice := some device }
  else return scan

def scanImage (scan : Scan) (image : Value) : Except RecoveryTopologyBlock Scan := do
  let dictionary ← expect .malformedOrUnboundedPlist image.asDictionary
  let imagePath ← expect .malformedOrUnboundedPlist (textField dictionary "image-path")
  let entities ← expect .malformedOrUnboundedPlist
    ((dictionary.lookup "system-entities").bind Value.asArray)
  let total ← expect .malformedOrUnboundedPlist
    (checkedAddUsize scan.totalEntities entities.length)
  ensure (total ≤ maxRecoveryEntities) .malformedOrUnboundedPlist
  let imageMatches := decide (imagePath = expectedImage)
  entities.foldlM (scanEntity expectedMount imageMatches) { scan with
    totalEntities := total
    expectedImageCount := scan.expectedImageCount + if imageMatches then 1 else 0 }

/-- What was seen in all, which at most one image and one mount point may account for. -/
def concludeScan (scan : Scan) : Except RecoveryTopologyBlock RecoveryTopologyObservation := do
  ensure (scan.expectedImageCount ≤ 1) .expectedImageAppearsMultipleTimes
  ensure (scan.expectedMountCount ≤ 1) .expectedMountAppearsMultipleTimes
  match scan.expectedImageCount, scan.expectedMountCount, scan.matchingDevice with
  | 0, 0, none => return .noExpectedImageOrMountAttached
  | 1, 1, some device => return .exactImageMounted device
  | 1, 0, none => throw .expectedImageAttachedWithoutExpectedMount
  | _, _, _ => throw .malformedOrUnboundedPlist

def scanImages (images : List Value) : Except RecoveryTopologyBlock RecoveryTopologyObservation := do
  ensure (images.length ≤ maxRecoveryImages) .malformedOrUnboundedPlist
  let scan ← images.foldlM (scanImage expectedImage expectedMount) ⟨0, 0, none, 0⟩
  concludeScan scan

/-- The images of a decoded document. -/
def imagesOf (value : Value) : Option (List Value) :=
  value.asDictionary.bind fun root => (root.lookup "images").bind Value.asArray

end Decode

/-- `Path::to_str` of the bytes of a path. -/
def toStr (path : List UInt8) : Option String := String.fromUTF8? path.toByteArray

/-- `decode_topology`, over the reader of property lists. -/
def decodeTopology (fromReader : List UInt8 → Option Value) (bytes expectedImage expectedMount :
    List UInt8) : Except RecoveryTopologyBlock RecoveryTopologyObservation := do
  ensure (bytes.length ≤ maxRecoveryPlistBytes) .malformedOrUnboundedPlist
  let expectedImage ← expect .nonUtf8ExpectedPath (toStr expectedImage)
  let expectedMount ← expect .nonUtf8ExpectedPath (toStr expectedMount)
  let value ← expect .malformedOrUnboundedPlist (fromReader bytes)
  let images ← expect .malformedOrUnboundedPlist (imagesOf value)
  scanImages expectedImage expectedMount images

end BirdCode.Workspace
