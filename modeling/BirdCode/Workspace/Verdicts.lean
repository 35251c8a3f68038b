import BirdCode.Lib.Renaming
import BirdCode.Workspace.Attachments

/-! The decoding of a topology is exact: it finds the expected image and mount point just where the
document has them, in whatever order it lists them. -/
namespace BirdCode.Workspace

section Order

variable {expectedImage expectedMount device : String} {images images' : List Image}

/-- The same image, its entities in another order. -/
def SameImage (image image' : Image) : Prop :=
  image'.path = image.path ∧ image.entities.Perm image'.entities

/-- The same images in another order, and in each of them the entities. -/
def SameImages (images images' : List Image) : Prop :=
  ∃ moved, images.Perm moved ∧ List.Forall₂ SameImage moved images'

theorem entitiesOf_perm (h : List.Forall₂ SameImage images images') :
    (entitiesOf images).Perm (entitiesOf images') := by
  induction h with
  | nil => exact .nil
  | cons hsame _ ih =>
    rw [entitiesOf, entitiesOf, List.flatMap_cons, List.flatMap_cons]
    exact hsame.2.append ih

theorem paths_of_forall₂ (h : List.Forall₂ SameImage images images') :
    images'.map Image.path = images.map Image.path := by
  induction h with
  | nil => rfl
  | cons hsame _ ih => rw [List.map_cons, List.map_cons, hsame.1, ih]

theorem SameImages.entities (h : SameImages images images') :
    (entitiesOf images).Perm (entitiesOf images') := by
  obtain ⟨moved, hperm, hsame⟩ := h
  exact (hperm.flatMap_right Image.entities).trans (entitiesOf_perm hsame)

theorem SameImages.paths (h : SameImages images images') :
    (images.map Image.path).Perm (images'.map Image.path) := by
  obtain ⟨moved, hperm, hsame⟩ := h
  rw [paths_of_forall₂ hsame]
  exact hperm.map Image.path

theorem SameImages.exists_image (h : SameImages images images') {image : Image}
    (hmem : image ∈ images) : ∃ image' ∈ images', SameImage image image' := by
  obtain ⟨moved, hperm, hsame⟩ := h
  exact Lib.exists_of_forall₂ hsame (hperm.subset hmem)

theorem SameImages.bounded (h : SameImages images images') (hbounded : Bounded images) :
    Bounded images' := by
  have hlength := h.paths.length_eq
  rw [List.length_map, List.length_map] at hlength
  exact ⟨hlength ▸ hbounded.1, h.entities.length_eq ▸ hbounded.2⟩

theorem SameImages.attachedBy (h : SameImages images images')
    (hattached : AttachedBy expectedImage expectedMount images device) :
    AttachedBy expectedImage expectedMount images' device := by
  obtain ⟨owner, howner, hpath, holder, hholder, hmounted⟩ := hattached.owner
  obtain ⟨owner', howner', hsame⟩ := h.exists_image howner
  have hpaths : ∀ images : List Image, images.countP (fun image => image.path = expectedImage) =
      (images.map Image.path).countP (fun path => path = expectedImage) := by
    intro images
    rw [List.countP_map]
    rfl
  refine ⟨?_, ?_, ⟨owner', howner', hsame.1.trans hpath, holder, hsame.2.subset hholder, hmounted⟩,
    hattached.canonical⟩
  · rw [hpaths, ← h.paths.countP_eq, ← hpaths]
    exact hattached.oneImage
  · rw [← h.entities.countP_eq]
    exact hattached.oneMount

theorem SameImages.unattached (h : SameImages images images')
    (habsent : Unattached expectedImage expectedMount images) :
    Unattached expectedImage expectedMount images' := by
  constructor
  · intro image' himage'
    have hpath := h.paths.mem_iff.mpr (List.mem_map_of_mem himage')
    obtain ⟨image, himage, heq⟩ := List.mem_map.mp hpath
    rw [← heq]
    exact habsent.1 image himage
  · intro entity hentity
    exact habsent.2 entity (h.entities.mem_iff.mpr hentity)

/-- The same document of an image, the entities it lists in another order. -/
inductive SameImageValue : Value → Value → Prop
  | same (value : Value) : SameImageValue value value
  | moved {fields fields' : List (String × Value)} {items items' : List Value}
      (hfields : ∀ key ≠ "system-entities", fields'.lookup key = fields.lookup key)
      (hitems : fields.lookup "system-entities" = some (.array items))
      (hitems' : fields'.lookup "system-entities" = some (.array items'))
      (hperm : items.Perm items') : SameImageValue (.dictionary fields) (.dictionary fields')

/-- The same document, its images and their entities in another order. -/
inductive Reordered : Value → Value → Prop
  | moved {fields fields' : List (String × Value)} {items middle items' : List Value}
      (hfields : ∀ key ≠ "images", fields'.lookup key = fields.lookup key)
      (hitems : fields.lookup "images" = some (.array items))
      (hitems' : fields'.lookup "images" = some (.array items'))
      (hperm : items.Perm middle) (hsame : List.Forall₂ SameImageValue middle items') :
      Reordered (.dictionary fields) (.dictionary fields')

/-- What is read of moved values is moved with them. -/
theorem exists_mapM_of_perm {A B : Type} {f : A → Option B} {l l' : List A} {read : List B}
    (hperm : l.Perm l') (h : l.mapM f = some read) :
    ∃ read', l'.mapM f = some read' ∧ read.Perm read' := by
  rw [mapM_eq_some] at h
  obtain ⟨read', hread, hmoved⟩ := List.perm_comp_forall₂ hperm.symm h
  exact ⟨read', mapM_eq_some.mpr hread, hmoved.symm⟩

theorem textField_congr {fields fields' : List (String × Value)} {field : String}
    (h : fields'.lookup field = fields.lookup field) : textField fields' field = textField fields field := by
  rw [textField, h, textField]

theorem readImage_moved {value value' : Value} {image : Image} (h : SameImageValue value value')
    (hread : readImage value = some image) :
    ∃ image', readImage value' = some image' ∧ SameImage image image' := by
  cases h with
  | same => exact ⟨image, hread, rfl, .refl _⟩
  | moved hfields hitems hitems' hperm =>
    simp only [readImage, Value.asDictionary, hitems, Option.bind_eq_bind, Option.bind_eq_some_iff,
      Option.pure_def, Option.some.injEq, Option.bind_some, Value.asArray] at hread
    obtain ⟨path, hpath, entities, hentities, rfl⟩ := hread
    obtain ⟨entities', hentities', hmoved⟩ := exists_mapM_of_perm hperm hentities
    refine ⟨⟨path, entities'⟩, ?_, rfl, hmoved⟩
    rw [← textField_congr (hfields "image-path" (by decide))] at hpath
    simp only [readImage, Value.asDictionary, hitems', Option.bind_eq_bind, Option.bind_some,
      Value.asArray, hpath, hentities', Option.pure_def]

theorem mapM_readImage_moved {values values' : List Value} {images : List Image}
    (h : List.Forall₂ SameImageValue values values') (hread : values.mapM readImage = some images) :
    ∃ images', values'.mapM readImage = some images' ∧ List.Forall₂ SameImage images images' := by
  rw [mapM_eq_some] at hread
  induction h generalizing images with
  | nil =>
    cases hread
    exact ⟨[], rfl, .nil⟩
  | cons hsame _ ih =>
    cases hread with
    | cons hhead htail =>
      obtain ⟨image', hhead', hsame'⟩ := readImage_moved hsame hhead
      obtain ⟨images', htail', hsames⟩ := ih htail
      refine ⟨image' :: images', ?_, .cons hsame' hsames⟩
      rw [mapM_eq_some] at htail' ⊢
      exact .cons hhead' htail'

theorem Reordered.readImages {value value' : Value} {images : List Image}
    (h : Reordered value value') (hread : readImages value = some images) :
    ∃ images', Workspace.readImages value' = some images' ∧ SameImages images images' := by
  cases h with
  | moved hfields hitems hitems' hperm hsame =>
    simp only [Workspace.readImages, imagesOf, Value.asDictionary, hitems, Option.bind_some,
      Value.asArray] at hread
    obtain ⟨moved, hmoved, hperm'⟩ := exists_mapM_of_perm hperm hread
    obtain ⟨images', hread', hsame'⟩ := mapM_readImage_moved hsame hmoved
    refine ⟨images', ?_, moved, hperm', hsame'⟩
    simpa only [Workspace.readImages, imagesOf, Value.asDictionary, hitems', Option.bind_some,
      Value.asArray] using hread'

theorem SameImageValue.symm {value value' : Value} (h : SameImageValue value value') :
    SameImageValue value' value := by
  cases h with
  | same => exact .same value
  | moved hfields hitems hitems' hperm =>
    exact .moved (fun key hkey => (hfields key hkey).symm) hitems' hitems hperm.symm

theorem forall₂_symm {values values' : List Value} (h : List.Forall₂ SameImageValue values values') :
    List.Forall₂ SameImageValue values' values := by
  induction h with
  | nil => exact .nil
  | cons hsame _ ih => exact .cons hsame.symm ih

theorem Reordered.symm {value value' : Value} (h : Reordered value value') : Reordered value' value := by
  cases h with
  | moved hfields hitems hitems' hperm hsame =>
    have hback : Relation.Comp (List.Forall₂ SameImageValue) List.Perm _ _ :=
      ⟨_, forall₂_symm hsame, hperm.symm⟩
    rw [List.forall₂_comp_perm_eq_perm_comp_forall₂] at hback
    obtain ⟨middle, hperm', hsame'⟩ := hback
    exact .moved (fun key hkey => (hfields key hkey).symm) hitems' hitems hperm' hsame'

end Order

section Verdict

variable {fromReader : List UInt8 → Option Value} {bytes bytes' expectedImage expectedMount : List UInt8}

/-- A document as large as a decoding takes, of the expected shape, which holds these images. -/
def Documents (fromReader : List UInt8 → Option Value) (bytes : List UInt8) (images : List Image) :
    Prop :=
  bytes.length ≤ maxRecoveryPlistBytes ∧
    ∃ value, fromReader bytes = some value ∧ readImages value = some images ∧ Bounded images

/-- The expected paths are texts. -/
def Expects (expectedImage expectedMount : List UInt8) (image mount : String) : Prop :=
  toStr expectedImage = some image ∧ toStr expectedMount = some mount

theorem decodeTopology_eq_ok {observation : RecoveryTopologyObservation} :
    decodeTopology fromReader bytes expectedImage expectedMount = .ok observation ↔
      bytes.length ≤ maxRecoveryPlistBytes ∧ ∃ image mount, Expects expectedImage expectedMount image
        mount ∧ ∃ value, fromReader bytes = some value ∧ ∃ values, imagesOf value = some values ∧
          scanImages image mount values = .ok observation := by
  unfold decodeTopology Expects
  simp only [bind_eq_ok, ensure_eq_ok, expect_eq_ok]
  constructor
  · rintro ⟨_, hbytes, image, himage, mount, hmount, value, hvalue, values, hvalues, h⟩
    exact ⟨hbytes, image, mount, ⟨himage, hmount⟩, value, hvalue, values, hvalues, h⟩
  · rintro ⟨hbytes, image, mount, ⟨himage, hmount⟩, value, hvalue, values, hvalues, h⟩
    exact ⟨(), hbytes, image, himage, mount, hmount, value, hvalue, values, hvalues, h⟩

theorem decodeTopology_mounted {device : String} :
    decodeTopology fromReader bytes expectedImage expectedMount = .ok (.exactImageMounted device) ↔
      ∃ image mount images, Expects expectedImage expectedMount image mount ∧
        Documents fromReader bytes images ∧ AttachedBy image mount images device := by
  rw [decodeTopology_eq_ok]
  simp only [scanImages_mounted]
  constructor
  · rintro ⟨hbytes, image, mount, hexpects, value, hvalue, values, hvalues, images, hread, hbounded, h⟩
    refine ⟨image, mount, images, hexpects, ⟨hbytes, value, hvalue, ?_, hbounded⟩, h⟩
    rw [readImages, hvalues]
    exact hread
  · rintro ⟨image, mount, images, hexpects, ⟨hbytes, value, hvalue, hread, hbounded⟩, h⟩
    obtain ⟨values, hvalues, hread⟩ := Option.bind_eq_some_iff.mp hread
    exact ⟨hbytes, image, mount, hexpects, value, hvalue, values, hvalues, images, hread, hbounded, h⟩

theorem decodeTopology_absent :
    decodeTopology fromReader bytes expectedImage expectedMount =
      .ok .noExpectedImageOrMountAttached ↔
      ∃ image mount images, Expects expectedImage expectedMount image mount ∧
        Documents fromReader bytes images ∧ Unattached image mount images := by
  rw [decodeTopology_eq_ok]
  simp only [scanImages_absent]
  constructor
  · rintro ⟨hbytes, image, mount, hexpects, value, hvalue, values, hvalues, images, hread, hbounded, h⟩
    refine ⟨image, mount, images, hexpects, ⟨hbytes, value, hvalue, ?_, hbounded⟩, h⟩
    rw [readImages, hvalues]
    exact hread
  · rintro ⟨image, mount, images, hexpects, ⟨hbytes, value, hvalue, hread, hbounded⟩, h⟩
    obtain ⟨values, hvalues, hread⟩ := Option.bind_eq_some_iff.mp hread
    exact ⟨hbytes, image, mount, hexpects, value, hvalue, values, hvalues, images, hread, hbounded, h⟩

/-- Another order of the same document holds the same images. -/
theorem Documents.reordered {value value' : Value} {images : List Image}
    (h : Documents fromReader bytes images) (hvalue : fromReader bytes = some value)
    (hvalue' : fromReader bytes' = some value') (hsame : Reordered value value')
    (hbytes' : bytes'.length ≤ maxRecoveryPlistBytes) :
    ∃ images', Documents fromReader bytes' images' ∧ SameImages images images' := by
  obtain ⟨_, _, hread, himages, hbounded⟩ := h
  obtain rfl := Option.some.inj (hvalue.symm.trans hread)
  obtain ⟨images', himages', hmoved⟩ := hsame.readImages himages
  exact ⟨images', ⟨hbytes', value', hvalue', himages', hmoved.bounded hbounded⟩, hmoved⟩

theorem decodeTopology_reordered {value value' : Value} {observation : RecoveryTopologyObservation}
    (hvalue : fromReader bytes = some value) (hvalue' : fromReader bytes' = some value')
    (hsame : Reordered value value') (hbytes' : bytes'.length ≤ maxRecoveryPlistBytes)
    (h : decodeTopology fromReader bytes expectedImage expectedMount = .ok observation) :
    decodeTopology fromReader bytes' expectedImage expectedMount = .ok observation := by
  cases observation with
  | noExpectedImageOrMountAttached =>
    obtain ⟨image, mount, images, hexpects, hdocument, habsent⟩ := decodeTopology_absent.mp h
    obtain ⟨images', hdocument', hmoved⟩ := hdocument.reordered hvalue hvalue' hsame hbytes'
    exact decodeTopology_absent.mpr
      ⟨image, mount, images', hexpects, hdocument', hmoved.unattached habsent⟩
  | exactImageMounted device =>
    obtain ⟨image, mount, images, hexpects, hdocument, hattached⟩ := decodeTopology_mounted.mp h
    obtain ⟨images', hdocument', hmoved⟩ := hdocument.reordered hvalue hvalue' hsame hbytes'
    exact decodeTopology_mounted.mpr
      ⟨image, mount, images', hexpects, hdocument', hmoved.attachedBy hattached⟩

/-- The image is found attached by a device exactly if the document says so, and found absent exactly
if the document holds neither path. The order of its images and entities decides neither, and a device
is named by the one text it is written as. -/
theorem decodeTopology_exact (fromReader : List UInt8 → Option Value)
    (bytes expectedImage expectedMount : List UInt8) :
    (∀ device, decodeTopology fromReader bytes expectedImage expectedMount =
        .ok (.exactImageMounted device) ↔
      ∃ image mount images, Expects expectedImage expectedMount image mount ∧
        Documents fromReader bytes images ∧ AttachedBy image mount images device) ∧
    (decodeTopology fromReader bytes expectedImage expectedMount =
        .ok .noExpectedImageOrMountAttached ↔
      ∃ image mount images, Expects expectedImage expectedMount image mount ∧
        Documents fromReader bytes images ∧ Unattached image mount images) ∧
    (∀ bytes' value value', fromReader bytes = some value → fromReader bytes' = some value' →
      Reordered value value' → bytes.length ≤ maxRecoveryPlistBytes →
      bytes'.length ≤ maxRecoveryPlistBytes →
      ∀ observation, decodeTopology fromReader bytes' expectedImage expectedMount = .ok observation ↔
        decodeTopology fromReader bytes expectedImage expectedMount = .ok observation) ∧
    ∀ value device, parseCanonicalDevicePath value = some device ↔ device.path = value := by
  refine ⟨fun device => decodeTopology_mounted, decodeTopology_absent, ?_,
    fun value device => parseCanonicalDevicePath_eq_some⟩
  intro bytes' value value' hvalue hvalue' hsame hbytes hbytes' observation
  constructor
  · exact decodeTopology_reordered hvalue' hvalue hsame.symm hbytes
  · exact decodeTopology_reordered hvalue hvalue' hsame hbytes'
/-- A document of one more image than a decoding takes, none of them the expected one. -/
def crowdedDocument : Value :=
  .dictionary [("images", .array (List.replicate 129 (.dictionary
    [("image-path", .string "/other.dmg"), ("system-entities", .array [])])))]

/-- No path of the crowded document is the expected one, and still it is not found absent. -/
theorem crowded_document_refused :
    readImages crowdedDocument = some (List.replicate 129 ⟨"/other.dmg", []⟩) ∧
      Unattached "/i" "/m" (List.replicate 129 ⟨"/other.dmg", []⟩) ∧
      Expects [47, 105] [47, 109] "/i" "/m" ∧
      decodeTopology (fun _ => some crowdedDocument) [] [47, 105] [47, 109] =
        .error .malformedOrUnboundedPlist := by
  refine ⟨by decide, ⟨?_, ?_⟩, ⟨by decide, by decide⟩, by decide +kernel⟩
  · intro image himage
    obtain rfl := List.eq_of_mem_replicate himage
    decide
  · intro entity hentity
    obtain ⟨image, himage, hinside⟩ := List.mem_flatMap.mp hentity
    obtain rfl := List.eq_of_mem_replicate himage
    cases hinside

def mountedDocument : Value :=
  .dictionary [("images", .array [.dictionary [("image-path", .string "/i"), ("system-entities",
    .array [.dictionary [("mount-point", .string "/m"), ("dev-entry", .string "/dev/disk4s1")]])]])]

theorem decodeTopology_exact_sample :
    decodeTopology (fun _ => some mountedDocument) [] [47, 105] [47, 109] =
      .ok (.exactImageMounted "/dev/disk4s1") := by
  refine ((decodeTopology_exact (fun _ => some mountedDocument) [] [47, 105] [47, 109]).1 _).mpr
    ⟨"/i", "/m", [⟨"/i", [⟨some "/m", some "/dev/disk4s1"⟩]⟩], ⟨by decide, by decide⟩,
      ⟨by decide, mountedDocument, rfl, by decide, by decide, by decide⟩, ?_⟩
  exact ⟨by decide, by decide, ⟨_, List.mem_singleton_self _, rfl, _, List.mem_singleton_self _, rfl,
    rfl⟩, ⟨4, some 1⟩, by decide⟩

end Verdict

end BirdCode.Workspace
