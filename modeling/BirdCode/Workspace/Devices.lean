import BirdCode.Workspace.Topology

/-! The text of a device is canonical: it is read as a device exactly if the device is written so. -/
namespace BirdCode.Workspace

section Device

variable {device : RepositorySnapshotMacOsDevice} {value : String}

theorem parseU32_repr (n : UInt32) : parseU32 (Nat.toDigits 10 n.toNat) = some n := by
  unfold parseU32
  rw [Nat.ofDigitChars_ten_toDigits, if_pos n.toNat_lt]
  simp

theorem isDecimal_toDigits (n : ℕ) : isDecimal (Nat.toDigits 10 n) = true := by
  unfold isDecimal
  rw [Bool.and_eq_true, List.all_eq_true]
  refine ⟨?_, fun c hc => Nat.isDigit_of_mem_toDigits (by omega) (by omega) hc⟩
  simp [Nat.toDigits_ne_nil]

/-- No digit separates a disk from a partition. -/
theorem separator_not_mem_toDigits (n : ℕ) : 's' ∉ Nat.toDigits 10 n := by
  intro h
  have hdigit := Nat.isDigit_of_mem_toDigits (by omega) (by omega) h
  exact absurd hdigit (by decide)

theorem stripPrefix_append (start text : List Char) : stripPrefix start (start ++ text) = some text := by
  simp [stripPrefix]

theorem splitOnce_append {separator : Char} {before after : List Char} (h : separator ∉ before) :
    splitOnce separator (before ++ separator :: after) = some (before, after) := by
  have hne : ∀ c ∈ before, decide (c ≠ separator) = true := by
    intro c hc
    exact decide_eq_true fun heq => h (heq ▸ hc)
  unfold splitOnce
  rw [if_pos (by simp), List.takeWhile_append_of_pos hne, List.dropWhile_append_of_pos hne]
  simp

/-- The digits that the path of a device is split into. -/
theorem splitDevice_body (disk : ℕ) (partition : Option ℕ) :
    splitDevice (Nat.toDigits 10 disk ++
      (partition.map fun partition => 's' :: Nat.toDigits 10 partition).getD []) =
      some (Nat.toDigits 10 disk, partition.map (Nat.toDigits 10)) := by
  unfold splitDevice
  cases partition with
  | none =>
    have hnone : splitOnce 's' (Nat.toDigits 10 disk) = none :=
      if_neg (separator_not_mem_toDigits disk)
    simp only [Option.map_none, Option.getD_none, List.append_nil, hnone]
  | some partition =>
    simp only [Option.map_some, Option.getD_some,
      splitOnce_append (separator_not_mem_toDigits disk), if_neg (separator_not_mem_toDigits partition)]

theorem path_toList (device : RepositorySnapshotMacOsDevice) :
    device.path.toList = devicePrefix.toList ++ (Nat.toDigits 10 device.diskNumber.toNat ++
      ((device.partitionNumber.map UInt32.toNat).map fun partition =>
        's' :: Nat.toDigits 10 partition).getD []) := by
  unfold RepositorySnapshotMacOsDevice.path
  cases device.partitionNumber with
  | none => simp
  | some partition => simp

/-- No character takes more than four bytes. -/
theorem utf8ByteSize_le (text : String) : text.utf8ByteSize ≤ 4 * text.toList.length := by
  have hbytes : (text.toList.flatMap String.utf8EncodeChar).length = text.utf8ByteSize := by
    rw [← String.size_toByteArray, ← String.utf8Encode_toList, List.utf8Encode,
      List.size_toByteArray]
  rw [← hbytes, List.length_flatMap]
  have hle := List.sum_le_card_nsmul (text.toList.map fun c => (String.utf8EncodeChar c).length) 4 (by
    intro n hn
    obtain ⟨c, _, rfl⟩ := List.mem_map.mp hn
    rw [String.length_utf8EncodeChar]
    exact c.utf8Size_le_four)
  rw [List.length_map, smul_eq_mul, mul_comm] at hle
  exact hle

theorem length_toDigits_uint32 (n : UInt32) : (Nat.toDigits 10 n.toNat).length ≤ 10 :=
  (Nat.length_toDigits_le_iff (by omega) (by omega)).mpr (n.toNat_lt.trans (by decide))

/-- A path fits the limit on the bytes of a device. -/
theorem path_fits (device : RepositorySnapshotMacOsDevice) :
    device.path.utf8ByteSize ≤ maxRecoveryDeviceBytes := by
  apply (utf8ByteSize_le device.path).trans
  have hdisk := length_toDigits_uint32 device.diskNumber
  have hprefix : devicePrefix.toList.length = 9 := by decide
  rw [path_toList, List.length_append, List.length_append, hprefix, maxRecoveryDeviceBytes]
  cases device.partitionNumber with
  | none =>
    simp only [Option.map_none, Option.getD_none, List.length_nil]
    omega
  | some partition =>
    have hpartition := length_toDigits_uint32 partition
    simp only [Option.map_some, Option.getD_some, List.length_cons]
    omega

/-- A path is accepted exactly if it is the path of the device it is read as. -/
theorem parseCanonicalDevicePath_eq_some :
    parseCanonicalDevicePath value = some device ↔ device.path = value := by
  constructor
  · intro h
    simp only [parseCanonicalDevicePath, Option.bind_eq_bind, Option.bind_eq_some_iff,
      Option.guard_eq_some', Option.pure_def, Option.some.injEq] at h
    obtain ⟨_, _, body, _, split, _, _, _, disk, _, partition, _, _, hpath, rfl⟩ := h
    exact hpath
  · rintro rfl
    have hsplit := splitDevice_body device.diskNumber.toNat (device.partitionNumber.map UInt32.toNat)
    have hnonempty : device.path ≠ "" := by
      intro hempty
      have := congrArg String.toList hempty
      rw [path_toList] at this
      simp [devicePrefix] at this
    have hpartition : ((device.partitionNumber.map UInt32.toNat).map (Nat.toDigits 10)).mapM
        parseU32 = some device.partitionNumber := by
      cases device.partitionNumber with
      | none => rfl
      | some n => simp [parseU32_repr]
    have hdecimal : ((device.partitionNumber.map UInt32.toNat).map (Nat.toDigits 10)).all
        isDecimal = true := by
      cases device.partitionNumber with
      | none => rfl
      | some n => exact isDecimal_toDigits n.toNat
    simp only [parseCanonicalDevicePath, Option.bind_eq_bind, Option.bind_eq_some_iff,
      Option.guard_eq_some', Option.pure_def, Option.some.injEq]
    refine ⟨(), ⟨hnonempty, path_fits device⟩, _, ?_, _, hsplit, (),
      ⟨isDecimal_toDigits _, hdecimal⟩, _, parseU32_repr device.diskNumber, _, hpartition, (), rfl,
      rfl⟩
    rw [path_toList, stripPrefix_append]

theorem validDevicePath_iff : validDevicePath value = true ↔
    ∃ device : RepositorySnapshotMacOsDevice, device.path = value := by
  unfold validDevicePath
  rw [Option.isSome_iff_exists]
  simp only [parseCanonicalDevicePath_eq_some]

end Device

end BirdCode.Workspace
