import SacmRuntime.Lib.Decimal
import SacmRuntime.Runtime.OfflineBundle

namespace SacmRuntime
open OfflineBundle

/-- An item of the manifest says of an entry its name, size and checksum. -/
structure Describes (env : BundleEnv) (item : Json) (entry : String × FileBytes) : Prop where
  name : ∃ name, item.field? "name" = some name ∧ entry.1 = artifactPath (textOf env name)
  size : ∃ size, item.field? "size" = some size ∧ isSize size entry.2.length = true
  sha256 : item.field? "sha256" = some (.str (env.sha256 entry.2))

/-- The content of a manifest entry holds a manifest with a signature that the
trusted key made. -/
structure SignedManifest (env : BundleEnv) (trusted : String) (content : FileBytes) (manifest : Json) : Prop where
  signed : ∃ envelope metadata publicKey fingerprint signature, env.loads content = .ok envelope ∧
    envelope.field? "manifest" = some manifest ∧ envelope.field? "signature_metadata" = some metadata ∧
    metadata.get "algorithm" = .str "Ed25519" ∧ metadata.field? "public_key" = some (.str publicKey) ∧
    env.fingerprint publicKey = .ok fingerprint ∧ lower fingerprint = lower trusted ∧
    envelope.field? "signature" = some (.str signature) ∧
    env.checkEd25519 publicKey signature (manifest.text false) = .ok ()

def listedItems (manifest : Json) : Except BundleError (List Json) := subscript manifest "files" >>= iterate

/-- One entry is the manifest, signed by the trusted key; it declares every
other entry, and each file that it declares is there. -/
def BundleSound (env : BundleEnv) (trusted : String) (archive : Archive) : Prop :=
  ∃ before content after manifest items, archive = before ++ (manifestName, content) :: after ∧
    SignedManifest env trusted content manifest ∧ listedItems manifest = .ok items ∧
    (∀ entry ∈ before ++ after, ∃ item ∈ items, Describes env item entry) ∧
    ∀ item ∈ items, ∃ entry ∈ before ++ after, Describes env item entry

/-- Reading by name hides nothing: there is one manifest, and the entries of
one name have one size and one checksum. -/
structure NothingHidden (env : BundleEnv) (archive : Archive) : Prop where
  manifest : (archive.map Prod.fst).count manifestName ≤ 1
  files : ∀ a ∈ archive, ∀ b ∈ archive, a.1 = b.1 → a.2.length = b.2.length ∧ env.sha256 a.2 = env.sha256 b.2

section
variable {env : BundleEnv} {trusted name : String} {archive : Archive} {value : FileBytes}

theorem subscript_ok {value found : Json} {key : String} (ok : subscript value key = .ok found) :
    value.field? key = some found := by
  unfold subscript at ok
  split at ok
  · split at ok
    · rename_i atKey
      cases ok
      exact atKey
    · cases ok
  · cases ok

theorem asText_ok {value : Json} {text : String} (ok : asText value = .ok text) : value = .str text := by
  cases value with
  | str s =>
    cases ok
    rfl
  | _ => cases ok

theorem read_mem (ok : read archive name = .ok value) : (name, value) ∈ archive := by
  unfold OfflineBundle.read at ok
  split at ok
  · rename_i entry found
    cases ok
    have named := List.find?_some found
    rw [beq_iff_eq] at named
    rw [← named]
    exact List.mem_reverse.mp (List.mem_of_find?_eq_some found)
  · cases ok

theorem artifactPath_ne (name : String) : artifactPath name ≠ manifestName := by
  intro same
  have first := congrArg (fun text => text.toList.head?) same
  simp [artifactPath, manifestName] at first

theorem artifactPath_injective : Function.Injective artifactPath := by
  intro a b same
  have texts := congrArg String.toList same
  unfold artifactPath at texts
  rw [String.toList_append, String.toList_append] at texts
  exact String.toList_injective (List.append_cancel_left texts)

theorem isSize_unique {size : Json} {n m : Nat} (first : isSize size n = true) (second : isSize size m = true) :
    n = m := by
  unfold isSize at first second
  cases size with
  | int k =>
    rw [beq_iff_eq] at first second
    omega
  | bool b =>
    rw [beq_iff_eq] at first second
    omega
  | float x =>
    have plain : ∀ k : Nat, (toString k).toList ++ ['.', '0'] ≠ "-0.0".toList := by
      intro k same
      have sign : '-' ∈ (toString k).toList ++ ['.', '0'] := by rw [same]; decide
      rcases List.mem_append.mp sign with inside | inside
      · rw [Nat.toString_eq_repr, Nat.toList_repr] at inside
        exact Decimal.not_mem_toDigits (by decide) inside
      · simp at inside
    simp only [Bool.or_eq_true, Bool.and_eq_true, beq_iff_eq] at first second
    rcases first with first | ⟨rfl, first⟩
    · rcases second with second | ⟨rfl, second⟩
      · have same := List.append_cancel_right (first.symm.trans second)
        rw [Nat.toString_eq_repr, Nat.toList_repr, Nat.toString_eq_repr, Nat.toList_repr] at same
        exact Decimal.toDigits_injective same
      · exact absurd (first.symm.trans second) (plain n)
    · rcases second with second | ⟨rfl, second⟩
      · exact absurd (second.symm.trans first) (plain m)
      · rfl
  | _ => cases first

variable {a b : String × FileBytes} {item : Json}

theorem checkFile_ok {path : String} (ok : checkFile env archive item = .ok path) :
    ∃ value, read archive path = .ok value ∧ Describes env item (path, value) := by
  unfold checkFile at ok
  obtain ⟨name, atName, ok⟩ := Checked.bind_ok ok
  obtain ⟨value, atPath, ok⟩ := Checked.bind_ok ok
  obtain ⟨size, atSize, ok⟩ := Checked.bind_ok ok
  split at ok
  · cases ok
  rename_i fits
  obtain ⟨sha256, atSha256, ok⟩ := Checked.bind_ok ok
  split at ok
  · cases ok
  rename_i same
  cases ok
  have same := not_not.mp same
  refine ⟨value, atPath, ⟨name, subscript_ok atName, rfl⟩, ⟨size, subscript_ok atSize, ?_⟩, ?_⟩
  · simpa using fits
  · rw [subscript_ok atSha256, same]

theorem Describes.unique (first : Describes env item a) (second : Describes env item b) :
    a.1 = b.1 ∧ a.2.length = b.2.length ∧ env.sha256 a.2 = env.sha256 b.2 := by
  obtain ⟨name, atName, ofA⟩ := first.name
  obtain ⟨name', atName', ofB⟩ := second.name
  obtain ⟨size, atSize, sizeA⟩ := first.size
  obtain ⟨size', atSize', sizeB⟩ := second.size
  have sameName := Option.some.inj (atName.symm.trans atName')
  have sameSize := Option.some.inj (atSize.symm.trans atSize')
  subst sameName sameSize
  have sameSha256 := Json.str.inj (Option.some.inj (first.sha256.symm.trans second.sha256))
  exact ⟨ofA.trans ofB.symm, isSize_unique sizeA sizeB, sameSha256⟩

theorem Describes.exchange (first : Describes env item a) (named : a.1 = b.1)
    (same : a.2.length = b.2.length ∧ env.sha256 a.2 = env.sha256 b.2) : Describes env item b where
  name := named ▸ first.name
  size := same.1 ▸ first.size
  sha256 := same.2 ▸ first.sha256

theorem SignedManifest.unique {content : FileBytes} {manifest other : Json}
    (first : SignedManifest env trusted content manifest) (second : SignedManifest env trusted content other) :
    manifest = other := by
  obtain ⟨envelope, _, _, _, _, loaded, atManifest, _⟩ := first.signed
  obtain ⟨envelope', _, _, _, _, loaded', atOther, _⟩ := second.signed
  have same := Except.ok.inj (loaded.symm.trans loaded')
  subst same
  exact Option.some.inj (atManifest.symm.trans atOther)

theorem checkKey_ok {metadata : Json} {publicKey : String} (ok : checkKey env metadata trusted = .ok publicKey) :
    ∃ fingerprint, metadata.get "algorithm" = .str "Ed25519" ∧ metadata.field? "public_key" = some (.str publicKey) ∧
      env.fingerprint publicKey = .ok fingerprint ∧ lower fingerprint = lower trusted := by
  unfold checkKey at ok
  split at ok
  · split at ok
    · cases ok
    rename_i algorithm
    obtain ⟨value, atKey, ok⟩ := Checked.bind_ok ok
    obtain ⟨key, isText, ok⟩ := Checked.bind_ok ok
    obtain ⟨fingerprint, ofKey, ok⟩ := Checked.bind_ok ok
    obtain ⟨declared, _, ok⟩ := Checked.bind_ok ok
    split at ok
    · cases ok
    split at ok
    · cases ok
    rename_i same
    cases ok
    refine ⟨fingerprint, not_not.mp algorithm, ?_, ofKey, not_not.mp same⟩
    rw [subscript_ok atKey, asText_ok isText]
  · cases ok

/-- What an accepted archive has passed: its last manifest is signed, each
listed item describes what is read under its name, and there is no other name. -/
theorem verify_ok (ok : verify env archive trusted = .ok ()) :
    ∃ content manifest items, read archive manifestName = .ok content ∧
      SignedManifest env trusted content manifest ∧ listedItems manifest = .ok items ∧
      (∀ item ∈ items, ∃ path value, read archive path = .ok value ∧ Describes env item (path, value)) ∧
      ∀ entry ∈ archive, entry.1 ≠ manifestName →
        ∃ item ∈ items, ∃ value, read archive entry.1 = .ok value ∧ Describes env item (entry.1, value) := by
  unfold verify at ok
  split at ok
  · cases ok
  obtain ⟨content, atContent, ok⟩ := Checked.bind_ok ok
  obtain ⟨envelope, loaded, ok⟩ := Checked.bind_ok ok
  obtain ⟨manifest, atManifest, ok⟩ := Checked.bind_ok ok
  obtain ⟨metadata, atMetadata, ok⟩ := Checked.bind_ok ok
  obtain ⟨publicKey, checked, ok⟩ := Checked.bind_ok ok
  obtain ⟨signature, atSignature, ok⟩ := Checked.bind_ok ok
  obtain ⟨_, accepted, ok⟩ := Checked.bind_ok ok
  obtain ⟨fingerprint, algorithm, atKey, ofKey, same⟩ := checkKey_ok checked
  unfold checkFiles at ok
  obtain ⟨files, atFiles, ok⟩ := Checked.bind_ok ok
  obtain ⟨items, listed, ok⟩ := Checked.bind_ok ok
  obtain ⟨declared, each, ok⟩ := Checked.bind_ok ok
  split at ok
  · rename_i names
    have signed : SignedManifest env trusted content manifest := by
      unfold verifyEd25519 at accepted
      split at accepted
      · rename_i text
        exact ⟨envelope, metadata, publicKey, fingerprint, text, loaded, subscript_ok atManifest,
          subscript_ok atMetadata, algorithm, atKey, ofKey, same, subscript_ok atSignature, accepted⟩
      · cases accepted
    have asked : listedItems manifest = .ok items := by
      unfold listedItems
      rw [atFiles]
      exact listed
    refine ⟨content, manifest, items, atContent, signed, asked, ?_, ?_⟩
    · intro item member
      obtain ⟨path, _, passed⟩ := Checked.mapM_result each member
      exact ⟨path, checkFile_ok passed⟩
    · intro entry member other
      rcases List.mem_cons.mp (names.1 entry.1 (List.mem_map_of_mem member)) with isManifest | isDeclared
      · exact absurd isManifest other
      · obtain ⟨item, inItems, passed⟩ := Checked.mapM_origin each isDeclared
        exact ⟨item, inItems, checkFile_ok passed⟩
  · cases ok

theorem verify_cons {entry : String × FileBytes} (repeated : entry.1 ∈ archive.map Prod.fst) :
    verify env (entry :: archive) trusted = verify env archive trusted := by
  have reads : ∀ name, read (entry :: archive) name = read archive name := by
    intro name
    unfold OfflineBundle.read
    rw [List.reverse_cons, List.find?_append]
    cases found : archive.reverse.find? fun other => other.1 == name with
    | some other => rfl
    | none =>
      have different : entry.1 ≠ name := by
        rintro rfl
        obtain ⟨other, member, named⟩ := List.mem_map.mp repeated
        have missed := List.find?_eq_none.mp found other (List.mem_reverse.mpr member)
        exact missed (by simp [named])
      simp [different]
  have checks : checkFile env (entry :: archive) = checkFile env archive := by
    funext item
    unfold checkFile
    simp only [reads]
  have names : ∀ name, name ∈ (entry :: archive).map Prod.fst ↔ name ∈ archive.map Prod.fst := by
    intro name
    rw [List.map_cons, List.mem_cons]
    exact ⟨fun either => either.elim (fun same => same ▸ repeated) id, Or.inr⟩
  have files : checkFiles env (entry :: archive) = checkFiles env archive := by
    funext manifest
    unfold checkFiles
    simp only [checks, names]
  unfold verify
  simp only [names, reads, files]

theorem sound_of_nothingHidden (ok : verify env archive trusted = .ok ()) (nothing : NothingHidden env archive) :
    BundleSound env trusted archive := by
  obtain ⟨content, manifest, items, atContent, signed, listed, present, declared⟩ := verify_ok ok
  obtain ⟨before, after, split⟩ := List.append_of_mem (read_mem atContent)
  have others : ∀ entry ∈ before ++ after, entry ∈ archive ∧ entry.1 ≠ manifestName := by
    intro entry member
    have inArchive : entry ∈ archive := by
      rw [split]
      rcases List.mem_append.mp member with inBefore | inAfter
      · exact List.mem_append_left _ inBefore
      · exact List.mem_append_right _ (List.mem_cons_of_mem _ inAfter)
    refine ⟨inArchive, fun named => ?_⟩
    have once := nothing.manifest
    have twice : 0 < ((before ++ after).map Prod.fst).count manifestName :=
      List.count_pos_iff.mpr (named ▸ List.mem_map_of_mem member)
    rw [split] at once
    simp only [List.map_append, List.map_cons, List.count_append, List.count_cons_self] at once twice
    omega
  refine ⟨before, content, after, manifest, items, split, signed, listed, ?_, ?_⟩
  · intro entry member
    obtain ⟨inArchive, other⟩ := others entry member
    obtain ⟨item, inItems, value, atPath, describes⟩ := declared entry inArchive other
    exact ⟨item, inItems, describes.exchange rfl (nothing.files _ (read_mem atPath) _ inArchive rfl)⟩
  · intro item member
    obtain ⟨path, value, atPath, describes⟩ := present item member
    obtain ⟨name, _, named⟩ := describes.name
    have inArchive := read_mem atPath
    rw [split] at inArchive
    refine ⟨(path, value), ?_, describes⟩
    rcases List.mem_append.mp inArchive with inBefore | inRest
    · exact List.mem_append_left _ inBefore
    · rcases List.mem_cons.mp inRest with isManifest | inAfter
      · exact absurd (named.symm.trans (congrArg Prod.fst isManifest)) (artifactPath_ne _)
      · exact List.mem_append_right _ inAfter

theorem nothingHidden_of_sound (ok : verify env archive trusted = .ok ()) (sound : BundleSound env trusted archive) :
    NothingHidden env archive := by
  obtain ⟨before, content, after, manifest, items, split, signed, listed, declares, _⟩ := sound
  obtain ⟨content', manifest', items', atContent, signed', listed', present, _⟩ := verify_ok ok
  have other : ∀ entry ∈ before ++ after, entry.1 ≠ manifestName := by
    intro entry member
    obtain ⟨item, _, describes⟩ := declares entry member
    obtain ⟨name, _, named⟩ := describes.name
    exact named ▸ artifactPath_ne _
  have atManifest : ∀ entry ∈ archive, entry.1 = manifestName → entry = (manifestName, content) := by
    intro entry member named
    rw [split] at member
    rcases List.mem_append.mp member with inBefore | inRest
    · exact absurd named (other entry (List.mem_append_left _ inBefore))
    · rcases List.mem_cons.mp inRest with isManifest | inAfter
      · exact isManifest
      · exact absurd named (other entry (List.mem_append_right _ inAfter))
  have sameContent : content' = content := congrArg Prod.snd (atManifest _ (read_mem atContent) rfl)
  subst sameContent
  have sameManifest := signed.unique signed'
  subst sameManifest
  have sameItems : items = items' := Except.ok.inj (listed.symm.trans listed')
  subst sameItems
  constructor
  · have none : ((before ++ after).map Prod.fst).count manifestName = 0 := by
      refine List.count_eq_zero.mpr fun member => ?_
      obtain ⟨entry, inRest, named⟩ := List.mem_map.mp member
      exact other entry inRest named
    rw [split]
    simp only [List.map_append, List.map_cons, List.count_append, List.count_cons_self] at none ⊢
    omega
  · intro a inA b inB same
    by_cases named : a.1 = manifestName
    · rw [atManifest a inA named, atManifest b inB (same ▸ named)]
      exact ⟨rfl, rfl⟩
    · have found : ∀ entry ∈ archive, entry.1 = a.1 → ∃ value, read archive a.1 = .ok value ∧
          entry.2.length = value.length ∧ env.sha256 entry.2 = env.sha256 value := by
        intro entry member ofName
        have inRest : entry ∈ before ++ after := by
          rw [split] at member
          rcases List.mem_append.mp member with inBefore | inRest
          · exact List.mem_append_left _ inBefore
          · rcases List.mem_cons.mp inRest with isManifest | inAfter
            · exact absurd (ofName.symm.trans (congrArg Prod.fst isManifest)) named
            · exact List.mem_append_right _ inAfter
        obtain ⟨item, inItems, describes⟩ := declares entry inRest
        obtain ⟨path, value, atPath, ofRead⟩ := present item inItems
        obtain ⟨samePath, agrees⟩ := describes.unique ofRead
        have samePath : path = a.1 := samePath.symm.trans ofName
        exact ⟨value, samePath ▸ atPath, agrees⟩
      obtain ⟨value, atName, ofA⟩ := found a inA rfl
      obtain ⟨value', atName', ofB⟩ := found b inB same.symm
      have sameValue := Except.ok.inj (atName.symm.trans atName')
      subst sameValue
      exact ⟨ofA.1.trans ofB.1.symm, ofA.2.trans ofB.2.symm⟩

end

section Generated
variable {env : BundleEnv} {key : EvidenceService.PrivateKey} {fingerprint createdAt : String}
  {artifacts : List Artifact}

theorem collectFiles_ok {names : List String} (distinct : (artifacts.map Prod.fst).Nodup)
    (fresh : ∀ artifact ∈ artifacts, artifact.1 ∉ names) :
    collectFiles env names artifacts = .ok (artifacts.map (fileOf env)) := by
  induction artifacts generalizing names with
  | nil => rfl
  | cons artifact rest ih =>
    rw [List.map_cons, List.nodup_cons] at distinct
    have later : ∀ other ∈ rest, other.1 ∉ artifact.1 :: names := by
      intro other member named
      rcases List.mem_cons.mp named with same | inNames
      · exact distinct.1 (same ▸ List.mem_map_of_mem member)
      · exact fresh other (List.mem_cons_of_mem _ member) inNames
    rw [collectFiles, if_neg (fresh artifact List.mem_cons_self), ih distinct.2 later]
    rfl

variable {archive : Archive}

theorem read_distinct {entry : String × FileBytes} (distinct : (archive.map Prod.fst).Nodup)
    (member : entry ∈ archive) : read archive entry.1 = .ok entry.2 := by
  have reversed : (archive.reverse.map Prod.fst).Nodup := by
    rw [List.map_reverse]
    exact List.nodup_reverse.mpr distinct
  have found := (Json.find_key_iff reversed).mpr ⟨List.mem_reverse.mpr member, rfl⟩
  unfold OfflineBundle.read
  rw [found]

theorem subscript_sortKeys {fields : List (String × Json)} {name : String} {value sorted : Json}
    (atName : (Json.obj fields).field? name = some value) (same : value.sortKeys = sorted)
    (distinct : (fields.map Prod.fst).Nodup) : subscript (Json.obj fields).sortKeys name = .ok sorted := by
  have found := Json.field_sortKeys name distinct
  rw [atName, Option.map_some, same] at found
  unfold subscript
  split
  · rw [found]
  · rename_i other
    exact absurd (Json.sortKeys.eq_2 fields) (other _)

theorem sortItems_eq (items : List Json) : Json.sortItems items = items.map Json.sortKeys := by
  induction items with
  | nil => rfl
  | cons item rest ih => rw [Json.sortItems, ih, List.map_cons]

theorem checkFile_fileOf {artifact : Artifact} (found : read archive (artifactPath artifact.1) = .ok artifact.2) :
    checkFile env archive (fileOf env artifact).sortKeys = .ok (artifactPath artifact.1) := by
  have atName : subscript (fileOf env artifact).sortKeys "name" = .ok (.str artifact.1) := by
    unfold fileOf
    exact subscript_sortKeys rfl rfl (by simp)
  have atSize : subscript (fileOf env artifact).sortKeys "size" = .ok (.int artifact.2.length) := by
    unfold fileOf
    exact subscript_sortKeys rfl rfl (by simp)
  have atSha256 : subscript (fileOf env artifact).sortKeys "sha256" = .ok (.str (env.sha256 artifact.2)) := by
    unfold fileOf
    exact subscript_sortKeys rfl rfl (by simp)
  have fits : isSize (.int artifact.2.length) artifact.2.length = true := by simp [isSize]
  unfold checkFile
  rw [atName]
  change (read archive (artifactPath artifact.1) >>= _) = _
  rw [found]
  change (subscript (fileOf env artifact).sortKeys "size" >>= _) = _
  rw [atSize]
  change (if isSize (.int artifact.2.length) artifact.2.length = false then _ else _) = _
  rw [fits, if_neg (by decide), atSha256]
  change (if _ then _ else _) = _
  rw [if_neg (not_not.mpr rfl)]
  rfl

/-- The key that `generate` signs with passes the checks of its own fingerprint. -/
theorem checkKey_metadataOf (ofKey : env.fingerprint key.publicPem = .ok fingerprint) :
    checkKey env (metadataOf key fingerprint).sortKeys fingerprint = .ok key.publicPem := by
  have algorithm : (metadataOf key fingerprint).sortKeys.get "algorithm" = .str "Ed25519" := by
    unfold metadataOf
    rw [Json.get_sortKeys "algorithm" (by simp)]
    rfl
  have atKey : subscript (metadataOf key fingerprint).sortKeys "public_key" = .ok (.str key.publicPem) := by
    unfold metadataOf
    exact subscript_sortKeys rfl rfl (by simp)
  have atFingerprint : subscript (metadataOf key fingerprint).sortKeys "key_fingerprint" = .ok (.str fingerprint) := by
    unfold metadataOf
    exact subscript_sortKeys rfl rfl (by simp)
  have object : ∃ fields, (metadataOf key fingerprint).sortKeys = .obj fields := ⟨_, Json.sortKeys.eq_2 _⟩
  obtain ⟨fields, sorted⟩ := object
  rw [sorted] at algorithm atKey atFingerprint ⊢
  have asked : asText (.str key.publicPem) = .ok key.publicPem := rfl
  unfold checkKey
  simp only [algorithm, atKey, asked, ofKey, atFingerprint, ne_eq, not_true_eq_false, if_false, bind, Except.bind]

theorem checkFiles_manifestOf {files : List Json} (listed : files.Perm (artifacts.map (fileOf env)))
    (found : ∀ artifact ∈ artifacts, read archive (artifactPath artifact.1) = .ok artifact.2)
    (names : ∀ name, name ∈ archive.map Prod.fst ↔ name = manifestName ∨ ∃ artifact ∈ artifacts,
      name = artifactPath artifact.1) :
    checkFiles env archive (manifestOf env createdAt files).sortKeys = .ok () := by
  have atFiles : subscript (manifestOf env createdAt files).sortKeys "files" =
      .ok (.arr ((sortedFiles env files).map Json.sortKeys)) := by
    unfold manifestOf
    refine subscript_sortKeys rfl ?_ (by simp)
    rw [Json.sortKeys, sortItems_eq]
  have origin : ∀ item, item ∈ (sortedFiles env files).map Json.sortKeys ↔
      ∃ artifact ∈ artifacts, (fileOf env artifact).sortKeys = item := by
    intro item
    rw [List.mem_map]
    constructor
    · rintro ⟨file, member, rfl⟩
      have member := listed.mem_iff.mp (List.mem_mergeSort.mp member)
      obtain ⟨artifact, inArtifacts, rfl⟩ := List.mem_map.mp member
      exact ⟨artifact, inArtifacts, rfl⟩
    · rintro ⟨artifact, inArtifacts, rfl⟩
      exact ⟨_, List.mem_mergeSort.mpr (listed.mem_iff.mpr (List.mem_map_of_mem inArtifacts)), rfl⟩
  have passes : ∀ item ∈ (sortedFiles env files).map Json.sortKeys, ∃ name, checkFile env archive item = .ok name := by
    intro item member
    obtain ⟨artifact, inArtifacts, rfl⟩ := (origin item).mp member
    exact ⟨_, checkFile_fileOf (found artifact inArtifacts)⟩
  obtain ⟨declared, checked⟩ := Checked.mapM_exists passes
  have declares : ∀ name, name ∈ declared ↔ ∃ artifact ∈ artifacts, name = artifactPath artifact.1 := by
    intro name
    constructor
    · intro member
      obtain ⟨item, inItems, passed⟩ := Checked.mapM_origin checked member
      obtain ⟨artifact, inArtifacts, rfl⟩ := (origin item).mp inItems
      exact ⟨artifact, inArtifacts, Except.ok.inj (passed.symm.trans (checkFile_fileOf (found artifact inArtifacts)))⟩
    · rintro ⟨artifact, inArtifacts, rfl⟩
      obtain ⟨name, member, passed⟩ := Checked.mapM_result checked ((origin _).mpr ⟨artifact, inArtifacts, rfl⟩)
      have same := Except.ok.inj (passed.symm.trans (checkFile_fileOf (found artifact inArtifacts)))
      exact same ▸ member
  have same : ∀ name, name ∈ archive.map Prod.fst ↔ name ∈ manifestName :: declared := by
    intro name
    rw [names, List.mem_cons, declares]
  unfold checkFiles
  rw [atFiles]
  change (((sortedFiles env files).map Json.sortKeys).mapM (checkFile env archive) >>= _) = _
  rw [checked]
  exact if_pos ⟨fun name member => (same name).mp member, fun name member => (same name).mpr member⟩

/-- What `generate` writes passes with the fingerprint that it returned. -/
theorem generate_verifies (distinct : (artifacts.map Prod.fst).Nodup)
    (ofKey : env.fingerprint key.publicPem = .ok fingerprint)
    (accepts : ∀ text, env.checkEd25519 key.publicPem (key.sign text) text = .ok ())
    (loads : env.loads (manifestBytes env (envelopeOf key fingerprint
      (manifestOf env createdAt (artifacts.map (fileOf env))))) =
        .ok (envelopeOf key fingerprint (manifestOf env createdAt (artifacts.map (fileOf env)))).sortKeys) :
    ∃ archive, generate env key createdAt artifacts = .ok (archive, fingerprint) ∧
      verify env archive fingerprint = .ok () := by
  let manifest := manifestOf env createdAt (artifacts.map (fileOf env))
  let content := manifestBytes env (envelopeOf key fingerprint manifest)
  let archive : Archive := artifacts.map (fun artifact => (artifactPath artifact.1, artifact.2)) ++
    [(manifestName, content)]
  have generated : generate env key createdAt artifacts = .ok (archive, fingerprint) := by
    unfold generate
    rw [collectFiles_ok distinct fun _ _ inNone => List.not_mem_nil inNone]
    change (env.fingerprint key.publicPem >>= _) = _
    rw [ofKey]
    rfl
  have namesEq : archive.map Prod.fst = artifacts.map (fun artifact => artifactPath artifact.1) ++ [manifestName] := by
    simp [archive, Function.comp_def]
  have unique : (archive.map Prod.fst).Nodup := by
    rw [namesEq, List.nodup_append]
    refine ⟨?_, List.nodup_singleton _, ?_⟩
    · have mapped : artifacts.map (fun artifact => artifactPath artifact.1) =
          (artifacts.map Prod.fst).map artifactPath := by rw [List.map_map]; rfl
      rw [mapped]
      exact distinct.map artifactPath_injective
    · intro a inPaths b isManifest same
      obtain ⟨artifact, _, rfl⟩ := List.mem_map.mp inPaths
      exact artifactPath_ne _ (same.trans (List.mem_singleton.mp isManifest))
  have names : ∀ name, name ∈ archive.map Prod.fst ↔
      name = manifestName ∨ ∃ artifact ∈ artifacts, name = artifactPath artifact.1 := by
    intro name
    rw [namesEq, List.mem_append, List.mem_singleton, List.mem_map, or_comm]
    refine or_congr_right ⟨?_, ?_⟩
    · rintro ⟨artifact, member, rfl⟩
      exact ⟨artifact, member, rfl⟩
    · rintro ⟨artifact, member, rfl⟩
      exact ⟨artifact, member, rfl⟩
  have found : ∀ artifact ∈ artifacts, read archive (artifactPath artifact.1) = .ok artifact.2 := by
    intro artifact member
    have inArchive : (artifactPath artifact.1, artifact.2) ∈ archive :=
      List.mem_append_left _ (List.mem_map_of_mem (f := fun a => (artifactPath a.1, a.2)) member)
    exact read_distinct unique inArchive
  have atManifest : read archive manifestName = .ok content :=
    read_distinct unique (List.mem_append_right _ (List.mem_singleton.mpr rfl))
  have inNames : manifestName ∈ archive.map Prod.fst := (names manifestName).mpr (Or.inl rfl)
  have gotManifest : subscript (envelopeOf key fingerprint manifest).sortKeys "manifest" = .ok manifest.sortKeys := by
    unfold envelopeOf
    exact subscript_sortKeys rfl rfl (by simp)
  have gotMetadata : subscript (envelopeOf key fingerprint manifest).sortKeys "signature_metadata" =
      .ok (metadataOf key fingerprint).sortKeys := by
    unfold envelopeOf
    exact subscript_sortKeys rfl rfl (by simp)
  have gotSignature : subscript (envelopeOf key fingerprint manifest).sortKeys "signature" =
      .ok (.str (key.sign (manifest.text false))) := by
    unfold envelopeOf
    exact subscript_sortKeys rfl rfl (by simp)
  have accepted :
      verifyEd25519 env key.publicPem manifest.sortKeys (.str (key.sign (manifest.text false))) = .ok () := by
    have sameText : manifest.sortKeys.text false = manifest.text false := by
      unfold Json.text
      rw [Json.dumps_sortKeys]
    unfold verifyEd25519
    simp only [sameText]
    exact accepts _
  have checked : checkFiles env archive manifest.sortKeys = .ok () :=
    checkFiles_manifestOf (List.Perm.refl _) found names
  have loaded : env.loads content = .ok (envelopeOf key fingerprint manifest).sortKeys := loads
  refine ⟨archive, generated, ?_⟩
  unfold verify
  rw [if_neg (not_not.mpr inNames), atManifest]
  simp only [loaded, gotManifest, gotMetadata, gotSignature, checkKey_metadataOf ofKey, accepted, checked, bind,
    Except.bind]

/-- An accepted archive is accounted for entry by entry exactly when reading
by name hides none of them, and what `generate` writes is accepted. -/
theorem verified_bundle (ofKey : env.fingerprint key.publicPem = .ok fingerprint)
    (accepts : ∀ text, env.checkEd25519 key.publicPem (key.sign text) text = .ok ())
    (loads : env.loads (manifestBytes env (envelopeOf key fingerprint
      (manifestOf env createdAt (artifacts.map (fileOf env))))) =
        .ok (envelopeOf key fingerprint (manifestOf env createdAt (artifacts.map (fileOf env)))).sortKeys) :
    (∀ trusted archive, verify env archive trusted = .ok () →
      (BundleSound env trusted archive ↔ NothingHidden env archive)) ∧
    ((artifacts.map Prod.fst).Nodup → ∃ archive, generate env key createdAt artifacts = .ok (archive, fingerprint) ∧
      verify env archive fingerprint = .ok ()) :=
  ⟨fun _ _ ok => ⟨nothingHidden_of_sound ok, sound_of_nothingHidden ok⟩,
    fun distinct => generate_verifies distinct ofKey accepts loads⟩

end Generated

namespace BundleSample

def key : EvidenceService.PrivateKey := ⟨id, "public", "fingerprint"⟩

def artifacts : List Artifact := [("runner.whl", [7, 7])]

/-- The parts of the environment on which the manifest depends. -/
def writing : BundleEnv where
  encode text := text.toList.map fun c => UInt8.ofNat c.toNat
  loads _ := .error (.valueError "Expecting value")
  quoted s := '"' :: (s.toList ++ ['"'])
  sha256 content := String.ofList (content.map fun byte => Char.ofNat byte.toNat)
  fingerprint publicKey := if publicKey = "public" then .ok "aa" else .error (.valueError "Unable to load PEM file.")
  checkEd25519 _ signature text :=
    if signature = text then .ok () else .error (.valueError "Result signature verification failed.")

def envelope : Json := envelopeOf key "aa" (manifestOf writing "2026-01-01" (artifacts.map (fileOf writing)))

def env : BundleEnv :=
  { writing with loads := fun content =>
      if content = manifestBytes writing envelope then .ok envelope.sortKeys
      else .error (.valueError "Expecting value") }

/-- An entry of other bytes stands before the declared one of its name. -/
def doubled : Archive :=
  [("artifacts/runner.whl", [6, 6, 6]), ("artifacts/runner.whl", [7, 7]),
    (manifestName, manifestBytes writing envelope)]

theorem read_back : env.loads (manifestBytes env envelope) = .ok envelope.sortKeys := if_pos rfl

end BundleSample

open BundleSample in
theorem verified_bundle_sample : ∃ archive, generate env key "2026-01-01" artifacts = .ok (archive, "aa") ∧
    verify env archive "aa" = .ok () := by
  have ofKey : env.fingerprint key.publicPem = .ok "aa" := rfl
  exact (verified_bundle ofKey (fun _ => if_pos rfl) read_back).2 (by simp [artifacts])

open BundleSample in
/-- The entry that stands first is of no declared size. -/
theorem doubled_accepted : verify env doubled "aa" = .ok () ∧ ¬BundleSound env "aa" doubled := by
  have ofKey : env.fingerprint key.publicPem = .ok "aa" := rfl
  have distinct : (artifacts.map Prod.fst).Nodup := by simp [artifacts]
  obtain ⟨archive, generated, verified⟩ :=
    generate_verifies distinct ofKey (fun _ => if_pos rfl) read_back
  have same : archive = [("artifacts/runner.whl", [7, 7]), (manifestName, manifestBytes writing envelope)] :=
    congrArg Prod.fst (Except.ok.inj (generated.symm.trans rfl))
  have accepted : verify env doubled "aa" = .ok () := by
    unfold doubled
    rw [verify_cons (by simp), ← same]
    exact verified
  refine ⟨accepted, fun sound => ?_⟩
  have nothing := nothingHidden_of_sound accepted sound
  have agree := nothing.files ("artifacts/runner.whl", [6, 6, 6]) (by simp [doubled])
    ("artifacts/runner.whl", [7, 7]) (by simp [doubled]) rfl
  exact absurd agree.1 (by decide)

end SacmRuntime
