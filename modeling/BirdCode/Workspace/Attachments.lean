import BirdCode.Workspace.Devices

/-! What a decoding reads of a document, and the conclusions of its scan: one attached image with the
one expected mount point, or neither anywhere. -/
namespace BirdCode.Workspace

section Reading

/-- What the decoding reads of an entity of an image. -/
structure Entity where
  mount : Option String
  device : Option String
  deriving DecidableEq

/-- What it reads of an image. -/
structure Image where
  path : String
  entities : List Entity
  deriving DecidableEq

def readEntity (value : Value) : Option Entity :=
  value.asDictionary.map fun dictionary =>
    ⟨textField dictionary "mount-point", textField dictionary "dev-entry"⟩

def readImage (value : Value) : Option Image := do
  let dictionary ← value.asDictionary
  let path ← textField dictionary "image-path"
  let entities ← (dictionary.lookup "system-entities").bind Value.asArray
  return ⟨path, ← entities.mapM readEntity⟩

/-- The images of a document have the expected shape. -/
def readImages (value : Value) : Option (List Image) :=
  (imagesOf value).bind fun images => images.mapM readImage

def entitiesOf (images : List Image) : List Entity := images.flatMap Image.entities

/-- No more images and entities than a decoding takes. -/
def Bounded (images : List Image) : Prop :=
  images.length ≤ maxRecoveryImages ∧ (entitiesOf images).length ≤ maxRecoveryEntities

end Reading

section Scans

variable {expectedImage expectedMount device : String} {scan scan' : Scan} {imageMatches : Bool}

/-- The entity is mounted where the image is expected. -/
def Entity.mountedAt (expectedMount : String) (entity : Entity) : Bool :=
  entity.mount = some expectedMount

/-- An entity at the expected mount point belongs to the expected image, by a canonical device. -/
def Entity.Canonical (expectedMount : String) (imageMatches : Bool) (entity : Entity) : Prop :=
  entity.mountedAt expectedMount = true →
    imageMatches = true ∧ ∃ device, entity.device = some device ∧ validDevicePath device = true

/-- The scan once it has passed an entity. -/
def Scan.withEntity (expectedMount : String) (scan : Scan) (entity : Entity) : Scan :=
  if entity.mountedAt expectedMount then { scan with
    expectedMountCount := scan.expectedMountCount + 1
    matchingDevice := entity.device }
  else scan

theorem scanEntity_eq_ok {value : Value} :
    scanEntity expectedMount imageMatches scan value = .ok scan' ↔
      ∃ entity, readEntity value = some entity ∧ entity.Canonical expectedMount imageMatches ∧
        scan' = scan.withEntity expectedMount entity := by
  unfold scanEntity readEntity
  simp only [bind_eq_ok, expect_eq_ok]
  constructor
  · rintro ⟨dictionary, hdictionary, h⟩
    refine ⟨_, by rw [hdictionary]; rfl, ?_⟩
    split at h
    · next hmount =>
      simp only [bind_eq_ok, ensure_eq_ok, expect_eq_ok, Option.filter_eq_some_iff] at h
      obtain ⟨_, hmatches, device, ⟨hdevice, hvalid⟩, h⟩ := h
      refine ⟨fun _ => ⟨hmatches, device, hdevice, hvalid⟩, ?_⟩
      simp only [Scan.withEntity, Entity.mountedAt, hmount, decide_true, if_true, hdevice]
      exact (Except.ok.inj h).symm
    · next hmount =>
      refine ⟨fun hmounted => absurd (of_decide_eq_true hmounted) hmount, ?_⟩
      simp only [Scan.withEntity, Entity.mountedAt, hmount, decide_false]
      exact (Except.ok.inj h).symm
  · rintro ⟨entity, hread, hcanonical, rfl⟩
    obtain ⟨dictionary, hdictionary, rfl⟩ := Option.map_eq_some_iff.mp hread
    refine ⟨dictionary, hdictionary, ?_⟩
    by_cases hmount : textField dictionary "mount-point" = some expectedMount
    · obtain ⟨hmatches, device, hdevice, hvalid⟩ := hcanonical (decide_eq_true hmount)
      dsimp only at hdevice
      rw [if_pos hmount]
      simp only [bind_eq_ok, ensure_eq_ok, expect_eq_ok, Option.filter_eq_some_iff]
      refine ⟨(), hmatches, device, ⟨hdevice, hvalid⟩, ?_⟩
      simp only [Scan.withEntity, Entity.mountedAt, hmount, decide_true, if_true, hdevice]
      rfl
    · rw [if_neg hmount]
      simp only [Scan.withEntity, Entity.mountedAt, hmount, decide_false]
      rfl

theorem scanEntities_eq_ok {values : List Value} :
    values.foldlM (scanEntity expectedMount imageMatches) scan = .ok scan' ↔
      ∃ entities, values.mapM readEntity = some entities ∧
        (∀ entity ∈ entities, entity.Canonical expectedMount imageMatches) ∧
        scan' = entities.foldl (Scan.withEntity expectedMount) scan := by
  induction values generalizing scan with
  | nil =>
    simp only [List.foldlM_nil, List.mapM_nil]
    constructor
    · rintro h
      exact ⟨[], rfl, by simp, (Except.ok.inj h).symm⟩
    · rintro ⟨entities, hnone, _, rfl⟩
      obtain rfl := Option.some.inj hnone
      rfl
  | cons value values ih =>
    rw [List.foldlM_cons, bind_eq_ok, List.mapM_cons]
    simp only [scanEntity_eq_ok, ih, Option.bind_eq_bind, Option.bind_eq_some_iff, Option.pure_def,
      Option.some.injEq]
    constructor
    · rintro ⟨middle, ⟨entity, hread, hcanonical, rfl⟩, entities, hreads, hall, rfl⟩
      refine ⟨entity :: entities, ⟨entity, hread, entities, hreads, rfl⟩, ?_, rfl⟩
      simpa using ⟨hcanonical, hall⟩
    · rintro ⟨_, ⟨entity, hread, entities, hreads, rfl⟩, hall, rfl⟩
      rw [List.forall_mem_cons] at hall
      exact ⟨_, ⟨entity, hread, hall.1, rfl⟩, entities, hreads, hall.2, rfl⟩

/-- The scan once it has passed an image. -/
def Scan.withImage (expectedImage expectedMount : String) (scan : Scan) (image : Image) : Scan :=
  image.entities.foldl (Scan.withEntity expectedMount) { scan with
    totalEntities := scan.totalEntities + image.entities.length
    expectedImageCount := scan.expectedImageCount + if image.path = expectedImage then 1 else 0 }

/-- Every entity at the expected mount point is canonical. -/
def Image.Canonical (expectedImage expectedMount : String) (image : Image) : Prop :=
  ∀ entity ∈ image.entities, entity.Canonical expectedMount (decide (image.path = expectedImage))

theorem mapM_eq_some {A B : Type} {f : A → Option B} {l : List A} {read : List B} :
    l.mapM f = some read ↔ List.Forall₂ (fun a b => f a = some b) l read := by
  induction l generalizing read with
  | nil =>
    rw [List.forall₂_nil_left_iff, List.mapM_nil, Option.pure_def, Option.some.injEq, eq_comm]
  | cons a l ih =>
    simp only [List.mapM_cons, Option.bind_eq_bind, Option.bind_eq_some_iff, Option.pure_def,
      Option.some.injEq, ih, List.forall₂_cons_left_iff]
    constructor
    · rintro ⟨b, hb, rest, hrest, rfl⟩
      exact ⟨b, rest, hb, hrest, rfl⟩
    · rintro ⟨b, rest, hb, hrest, rfl⟩
      exact ⟨b, hb, rest, hrest, rfl⟩

theorem length_of_mapM {A B : Type} {f : A → Option B} {l : List A} {read : List B}
    (h : l.mapM f = some read) : read.length = l.length :=
  (mapM_eq_some.mp h).length_eq.symm

theorem scanImage_eq_ok {value : Value} :
    scanImage expectedImage expectedMount scan value = .ok scan' ↔
      ∃ image, readImage value = some image ∧
        scan.totalEntities + image.entities.length ≤ maxRecoveryEntities ∧
        image.Canonical expectedImage expectedMount ∧
        scan' = scan.withImage expectedImage expectedMount image := by
  unfold scanImage readImage
  simp only [bind_eq_ok, expect_eq_ok, ensure_eq_ok, scanEntities_eq_ok, Option.bind_eq_bind,
    Option.bind_eq_some_iff, Option.pure_def, Option.some.injEq]
  constructor
  · rintro ⟨dictionary, hdictionary, path, hpath, values, hvalues, total, htotal, _, hle, entities,
      hentities, hcanonical, rfl⟩
    unfold checkedAddUsize at htotal
    split at htotal
    · obtain rfl := Option.some.inj htotal
      refine ⟨_, ⟨dictionary, hdictionary, path, hpath, values, hvalues, entities, hentities, rfl⟩,
        ?_, hcanonical, ?_⟩
      · rwa [length_of_mapM hentities]
      · simp only [Scan.withImage, length_of_mapM hentities, decide_eq_true_eq]
    · cases htotal
  · rintro ⟨_, ⟨dictionary, hdictionary, path, hpath, values, hvalues, entities, hentities, rfl⟩,
      hle, hcanonical, rfl⟩
    dsimp only at hle
    rw [length_of_mapM hentities] at hle
    have htotal : checkedAddUsize scan.totalEntities values.length =
        some (scan.totalEntities + values.length) := by
      unfold checkedAddUsize
      rw [if_pos]
      exact hle.trans_lt (by decide)
    refine ⟨dictionary, hdictionary, path, hpath, values, hvalues, _, htotal, (), hle, entities,
      hentities, hcanonical, ?_⟩
    simp only [Scan.withImage, length_of_mapM hentities, decide_eq_true_eq]

theorem foldl_withEntity_total (expectedMount : String) (scan : Scan) (entities : List Entity) :
    (entities.foldl (Scan.withEntity expectedMount) scan).totalEntities = scan.totalEntities ∧
      (entities.foldl (Scan.withEntity expectedMount) scan).expectedImageCount =
        scan.expectedImageCount := by
  induction entities generalizing scan with
  | nil => exact ⟨rfl, rfl⟩
  | cons entity entities ih =>
    rw [List.foldl_cons]
    have hstep : (scan.withEntity expectedMount entity).totalEntities = scan.totalEntities ∧
        (scan.withEntity expectedMount entity).expectedImageCount = scan.expectedImageCount := by
      unfold Scan.withEntity
      split <;> exact ⟨rfl, rfl⟩
    obtain ⟨htotal, hcount⟩ := ih (scan.withEntity expectedMount entity)
    exact ⟨htotal.trans hstep.1, hcount.trans hstep.2⟩

/-- The device of the last entity at the expected mount point, if there is one. -/
def lastDevice (expectedMount : String) (entities : List Entity) (before : Option String) :
    Option String :=
  (entities.filter (Entity.mountedAt expectedMount)).getLast?.elim before Entity.device

theorem foldl_withEntity_mount (expectedMount : String) (scan : Scan) (entities : List Entity) :
    (entities.foldl (Scan.withEntity expectedMount) scan).expectedMountCount =
        scan.expectedMountCount + entities.countP (Entity.mountedAt expectedMount) ∧
      (entities.foldl (Scan.withEntity expectedMount) scan).matchingDevice =
        lastDevice expectedMount entities scan.matchingDevice := by
  induction entities using List.reverseRecOn with
  | nil => exact ⟨rfl, rfl⟩
  | append_singleton entities entity ih =>
    rw [List.foldl_append, List.foldl_cons, List.foldl_nil, List.countP_append, lastDevice,
      List.filter_append]
    obtain ⟨hcount, hdevice⟩ := ih
    by_cases hmounted : entity.mountedAt expectedMount = true
    · simp only [Scan.withEntity, hmounted, if_true, hcount, List.countP_singleton,
        List.filter_singleton, cond_true, List.getLast?_append, List.getLast?_singleton,
        Option.some_or, Option.elim_some]
      exact ⟨by omega, trivial⟩
    · simp only [Scan.withEntity, hmounted, if_false, hcount, hdevice, List.countP_singleton,
        List.filter_singleton, Bool.false_eq_true]
      simp [lastDevice]

/-- What the scan of all images has counted. -/
theorem foldl_withImage (scan : Scan) (images : List Image) :
    (images.foldl (Scan.withImage expectedImage expectedMount) scan).totalEntities =
        scan.totalEntities + (entitiesOf images).length ∧
      (images.foldl (Scan.withImage expectedImage expectedMount) scan).expectedImageCount =
        scan.expectedImageCount + images.countP (fun image => image.path = expectedImage) ∧
      (images.foldl (Scan.withImage expectedImage expectedMount) scan).expectedMountCount =
        scan.expectedMountCount + (entitiesOf images).countP (Entity.mountedAt expectedMount) ∧
      (images.foldl (Scan.withImage expectedImage expectedMount) scan).matchingDevice =
        lastDevice expectedMount (entitiesOf images) scan.matchingDevice := by
  induction images generalizing scan with
  | nil => exact ⟨rfl, rfl, rfl, rfl⟩
  | cons image images ih =>
    obtain ⟨htotal, himages, hmounts, hdevice⟩ := ih (scan.withImage expectedImage expectedMount image)
    obtain ⟨htotal', himages'⟩ := foldl_withEntity_total expectedMount { scan with
      totalEntities := scan.totalEntities + image.entities.length
      expectedImageCount :=
        scan.expectedImageCount + if image.path = expectedImage then 1 else 0 } image.entities
    obtain ⟨hmounts', hdevice'⟩ := foldl_withEntity_mount expectedMount { scan with
      totalEntities := scan.totalEntities + image.entities.length
      expectedImageCount :=
        scan.expectedImageCount + if image.path = expectedImage then 1 else 0 } image.entities
    rw [List.foldl_cons, entitiesOf, List.flatMap_cons]
    refine ⟨?_, ?_, ?_, ?_⟩
    · rw [htotal, Scan.withImage, htotal', List.length_append, entitiesOf]
      dsimp only
      omega
    · rw [himages, Scan.withImage, himages', List.countP_cons]
      simp only [decide_eq_true_eq]
      omega
    · rw [hmounts, Scan.withImage, hmounts', List.countP_append, entitiesOf]
      dsimp only
      omega
    · rw [hdevice, Scan.withImage, hdevice']
      dsimp only [lastDevice]
      rw [List.filter_append, List.getLast?_append, entitiesOf]
      cases ((images.flatMap Image.entities).filter (Entity.mountedAt expectedMount)).getLast? <;> rfl

/-- Images that are scanned one after the other. -/
theorem foldlM_scanImage_eq_ok {values : List Value}
    (hscan : scan.totalEntities ≤ maxRecoveryEntities) :
    values.foldlM (scanImage expectedImage expectedMount) scan = .ok scan' ↔
      ∃ images, values.mapM readImage = some images ∧
        scan.totalEntities + (entitiesOf images).length ≤ maxRecoveryEntities ∧
        (∀ image ∈ images, image.Canonical expectedImage expectedMount) ∧
        scan' = images.foldl (Scan.withImage expectedImage expectedMount) scan := by
  induction values generalizing scan with
  | nil =>
    simp only [List.foldlM_nil, List.mapM_nil]
    constructor
    · intro h
      exact ⟨[], rfl, hscan, by simp, (Except.ok.inj h).symm⟩
    · rintro ⟨images, hnone, _, _, rfl⟩
      obtain rfl := Option.some.inj hnone
      rfl
  | cons value values ih =>
    have htotal : ∀ image, (scan.withImage expectedImage expectedMount image).totalEntities =
        scan.totalEntities + image.entities.length := fun image =>
      (foldl_withEntity_total expectedMount _ image.entities).1
    have hlength : ∀ image images, (entitiesOf (image :: images)).length =
        image.entities.length + (entitiesOf images).length := by
      intro image images
      rw [entitiesOf, List.flatMap_cons, List.length_append, entitiesOf]
    rw [List.foldlM_cons, bind_eq_ok, List.mapM_cons]
    simp only [scanImage_eq_ok, Option.bind_eq_bind, Option.bind_eq_some_iff, Option.pure_def,
      Option.some.injEq]
    constructor
    · rintro ⟨middle, ⟨image, hread, hle, hcanonical, rfl⟩, h⟩
      obtain ⟨images, hreads, hbound, hall, rfl⟩ := (ih (by rw [htotal]; exact hle)).mp h
      refine ⟨image :: images, ⟨image, hread, images, hreads, rfl⟩, ?_, ?_, rfl⟩
      · rw [htotal] at hbound
        rw [hlength]
        omega
      · simpa using ⟨hcanonical, hall⟩
    · rintro ⟨_, ⟨image, hread, images, hreads, rfl⟩, hbound, hall, rfl⟩
      rw [List.forall_mem_cons] at hall
      rw [hlength] at hbound
      refine ⟨_, ⟨image, hread, by omega, hall.1, rfl⟩, ?_⟩
      refine (ih (by rw [htotal]; omega)).mpr ⟨images, hreads, ?_, hall.2, rfl⟩
      rw [htotal]
      omega

theorem concludeScan_mounted : concludeScan scan = .ok (.exactImageMounted device) ↔
    scan.expectedImageCount = 1 ∧ scan.expectedMountCount = 1 ∧
      scan.matchingDevice = some device := by
  obtain ⟨images, mounts, matching, total⟩ := scan
  simp only [concludeScan, bind_eq_ok, ensure_eq_ok]
  constructor
  · rintro ⟨_, _, _, _, h⟩
    split at h <;> simp_all [pure, Except.pure, throw, throwThe, MonadExceptOf.throw]
  · rintro ⟨rfl, rfl, rfl⟩
    exact ⟨(), le_refl 1, (), le_refl 1, rfl⟩

theorem concludeScan_absent : concludeScan scan = .ok .noExpectedImageOrMountAttached ↔
    scan.expectedImageCount = 0 ∧ scan.expectedMountCount = 0 ∧ scan.matchingDevice = none := by
  obtain ⟨images, mounts, matching, total⟩ := scan
  simp only [concludeScan, bind_eq_ok, ensure_eq_ok]
  constructor
  · rintro ⟨_, _, _, _, h⟩
    split at h <;> simp_all [pure, Except.pure, throw, throwThe, MonadExceptOf.throw]
  · rintro ⟨rfl, rfl, rfl⟩
    exact ⟨(), Nat.zero_le 1, (), Nat.zero_le 1, rfl⟩

end Scans

section Exact

variable {expectedImage expectedMount device : String} {images images' : List Image}

/-- The expected image is attached once, and one of its entities is the only one at the expected mount
point, under a canonical device. -/
structure AttachedBy (expectedImage expectedMount : String) (images : List Image)
    (device : String) : Prop where
  oneImage : images.countP (fun image => image.path = expectedImage) = 1
  oneMount : (entitiesOf images).countP (Entity.mountedAt expectedMount) = 1
  owner : ∃ image ∈ images, image.path = expectedImage ∧
    ∃ entity ∈ image.entities, entity.mount = some expectedMount ∧ entity.device = some device
  canonical : ∃ named : RepositorySnapshotMacOsDevice, named.path = device

/-- Neither the expected image nor the expected mount point is anywhere. -/
def Unattached (expectedImage expectedMount : String) (images : List Image) : Prop :=
  (∀ image ∈ images, image.path ≠ expectedImage) ∧
    ∀ entity ∈ entitiesOf images, entity.mount ≠ some expectedMount

/-- One entity at the mount point is the last one. -/
theorem lastDevice_of_one {entities : List Entity} {entity : Entity} {before : Option String}
    (hone : entities.countP (Entity.mountedAt expectedMount) = 1) (hmem : entity ∈ entities)
    (hmounted : entity.mountedAt expectedMount = true) :
    lastDevice expectedMount entities before = entity.device := by
  rw [List.countP_eq_length_filter, List.length_eq_one_iff] at hone
  obtain ⟨only, honly⟩ := hone
  have hself : entity ∈ entities.filter (Entity.mountedAt expectedMount) :=
    List.mem_filter.mpr ⟨hmem, hmounted⟩
  rw [honly, List.mem_singleton] at hself
  rw [lastDevice, honly, hself]
  rfl

theorem lastDevice_of_none {entities : List Entity} {before : Option String}
    (h : entities.countP (Entity.mountedAt expectedMount) = 0) :
    lastDevice expectedMount entities before = before := by
  rw [List.countP_eq_length_filter, List.length_eq_zero_iff] at h
  rw [lastDevice, h]
  rfl

/-- The images other than the expected one hold no entity at the mount point, if the expected one
holds the only one. -/
theorem AttachedBy.elsewhere (h : AttachedBy expectedImage expectedMount images device) :
    ∀ image ∈ images, image.path ≠ expectedImage → ∀ entity ∈ image.entities,
      entity.mountedAt expectedMount = false := by
  intro image himage hpath entity hentity
  obtain ⟨owner, howner, hexpected, holder, hholder, hmount, _⟩ := h.owner
  have hsplit := (List.filter_append_perm (fun image : Image => image.path = expectedImage) images)
  have hcount := (hsplit.flatMap_right Image.entities).countP_eq (Entity.mountedAt expectedMount)
  rw [List.flatMap_append, List.countP_append, ← entitiesOf, ← entitiesOf, ← entitiesOf,
    h.oneMount] at hcount
  have hpositive : 0 < (entitiesOf (images.filter fun image : Image =>
      image.path = expectedImage)).countP (Entity.mountedAt expectedMount) := by
    refine List.countP_pos_iff.mpr ⟨holder, List.mem_flatMap.mpr ⟨owner, ?_, hholder⟩, ?_⟩
    · exact List.mem_filter.mpr ⟨howner, decide_eq_true hexpected⟩
    · exact decide_eq_true hmount
  have hzero : (entitiesOf (images.filter fun image : Image =>
      !decide (image.path = expectedImage))).countP (Entity.mountedAt expectedMount) = 0 := by
    omega
  rw [List.countP_eq_zero] at hzero
  rw [← Bool.not_eq_true]
  apply hzero
  exact List.mem_flatMap.mpr ⟨image, List.mem_filter.mpr ⟨himage, by simpa using hpath⟩, hentity⟩

/-- Every entity of an attached image that is at the mount point is canonical. -/
theorem AttachedBy.all_canonical (h : AttachedBy expectedImage expectedMount images device) :
    ∀ image ∈ images, image.Canonical expectedImage expectedMount := by
  intro image himage entity hentity hmounted
  by_cases hpath : image.path = expectedImage
  · refine ⟨decide_eq_true hpath, device, ?_, validDevicePath_iff.mpr h.canonical⟩
    obtain ⟨owner, howner, _, holder, hholder, hmount, hdevice⟩ := h.owner
    have hlast : lastDevice expectedMount (entitiesOf images) none = entity.device :=
      lastDevice_of_one h.oneMount (List.mem_flatMap.mpr ⟨image, himage, hentity⟩) hmounted
    have howned : lastDevice expectedMount (entitiesOf images) none = holder.device :=
      lastDevice_of_one h.oneMount (List.mem_flatMap.mpr ⟨owner, howner, hholder⟩)
        (decide_eq_true hmount)
    exact hlast.symm.trans (howned.trans hdevice)
  · have helsewhere := h.elsewhere image himage hpath entity hentity
    rw [hmounted] at helsewhere
    cases helsewhere

theorem Unattached.all_canonical (h : Unattached expectedImage expectedMount images) :
    ∀ image ∈ images, image.Canonical expectedImage expectedMount := by
  intro image himage entity hentity hmounted
  exact absurd (of_decide_eq_true hmounted) (h.2 entity (List.mem_flatMap.mpr ⟨image, himage, hentity⟩))

/-- The scan of all images, and what it concluded. -/
theorem scanImages_eq_ok {values : List Value} {observation : RecoveryTopologyObservation} :
    scanImages expectedImage expectedMount values = .ok observation ↔
      ∃ images, values.mapM readImage = some images ∧ Bounded images ∧
        (∀ image ∈ images, image.Canonical expectedImage expectedMount) ∧
        concludeScan (images.foldl (Scan.withImage expectedImage expectedMount) ⟨0, 0, none, 0⟩) =
          .ok observation := by
  unfold scanImages
  have hstart : (⟨0, 0, none, 0⟩ : Scan).totalEntities ≤ maxRecoveryEntities := by decide
  simp only [bind_eq_ok, ensure_eq_ok, foldlM_scanImage_eq_ok hstart]
  constructor
  · rintro ⟨_, hlength, scan, ⟨images, hread, hentities, hcanonical, rfl⟩, h⟩
    rw [← length_of_mapM hread] at hlength
    exact ⟨images, hread, ⟨hlength, by omega⟩, hcanonical, h⟩
  · rintro ⟨images, hread, hbounded, hcanonical, h⟩
    have hentities := hbounded.2
    refine ⟨(), ?_, _, ⟨images, hread, by omega, hcanonical, rfl⟩, h⟩
    rw [← length_of_mapM hread]
    exact hbounded.1

theorem scanImages_mounted {values : List Value} :
    scanImages expectedImage expectedMount values = .ok (.exactImageMounted device) ↔
      ∃ images, values.mapM readImage = some images ∧ Bounded images ∧
        AttachedBy expectedImage expectedMount images device := by
  rw [scanImages_eq_ok]
  refine exists_congr fun images => and_congr_right fun _ => and_congr_right fun _ => ?_
  obtain ⟨_, himages, hmounts, hdevice⟩ := @foldl_withImage expectedImage expectedMount
    ⟨0, 0, none, 0⟩ images
  rw [concludeScan_mounted, himages, hmounts, hdevice, Nat.zero_add, Nat.zero_add]
  constructor
  · rintro ⟨hcanonical, hone, hmount, hlast⟩
    have hpositive : 0 < (entitiesOf images).countP (Entity.mountedAt expectedMount) := by omega
    obtain ⟨entity, hentity, hmounted⟩ := List.countP_pos_iff.mp hpositive
    obtain ⟨image, himage, hinside⟩ := List.mem_flatMap.mp hentity
    rw [lastDevice_of_one hmount hentity hmounted] at hlast
    obtain ⟨hmatches, device', hdevice', hvalid⟩ := hcanonical image himage entity hinside hmounted
    rw [hlast] at hdevice'
    obtain rfl := Option.some.inj hdevice'
    exact ⟨hone, hmount, ⟨image, himage, of_decide_eq_true hmatches, entity, hinside,
      of_decide_eq_true hmounted, hlast⟩, validDevicePath_iff.mp hvalid⟩
  · intro h
    obtain ⟨owner, howner, _, holder, hholder, hmount, hdevice'⟩ := h.owner
    refine ⟨h.all_canonical, h.oneImage, h.oneMount, ?_⟩
    rw [lastDevice_of_one h.oneMount (List.mem_flatMap.mpr ⟨owner, howner, hholder⟩)
      (decide_eq_true hmount), hdevice']

theorem scanImages_absent {values : List Value} :
    scanImages expectedImage expectedMount values = .ok .noExpectedImageOrMountAttached ↔
      ∃ images, values.mapM readImage = some images ∧ Bounded images ∧
        Unattached expectedImage expectedMount images := by
  rw [scanImages_eq_ok]
  refine exists_congr fun images => and_congr_right fun _ => and_congr_right fun _ => ?_
  obtain ⟨_, himages, hmounts, hdevice⟩ := @foldl_withImage expectedImage expectedMount
    ⟨0, 0, none, 0⟩ images
  rw [concludeScan_absent, himages, hmounts, hdevice, Nat.zero_add, Nat.zero_add]
  have hpaths : images.countP (fun image => image.path = expectedImage) = 0 ↔
      ∀ image ∈ images, image.path ≠ expectedImage := by
    simp [List.countP_eq_zero]
  have hentities : (entitiesOf images).countP (Entity.mountedAt expectedMount) = 0 ↔
      ∀ entity ∈ entitiesOf images, entity.mount ≠ some expectedMount := by
    simp [List.countP_eq_zero, Entity.mountedAt]
  constructor
  · rintro ⟨_, hnone, hunmounted, _⟩
    exact ⟨hpaths.mp hnone, hentities.mp hunmounted⟩
  · intro h
    have hunmounted := hentities.mpr h.2
    exact ⟨h.all_canonical, hpaths.mpr h.1, hunmounted, lastDevice_of_none hunmounted⟩

end Exact

end BirdCode.Workspace
