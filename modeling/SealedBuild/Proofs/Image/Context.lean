import SealedBuild.BuildContext
import SealedBuild.Proofs.Archive.RoundTrip
import SealedBuild.Proofs.Image.Layout

/-!
# Build contexts read back

The archive of a request holds its containerfile and the staged file, byte for byte and with
their permissions, and nothing else. It depends on these two contents alone, and different
contents give different archives.
-/

namespace SealedBuild

/-- What an entry says of itself: its name, its permissions and its content. -/
def Archive.Entry.told (entry : Archive.Entry) :
    String × Except Archive.Fault Nat × List UInt8 :=
  (entry.name, entry.header.mode, entry.content)

namespace BuildContext

/-- The archive of a containerfile and an artifact. -/
def archive (containerfile : String) (artifact : List UInt8) : List UInt8 :=
  Archive.write (newFiles containerfile artifact)

/-- A context is packed whenever the staged file can be read, from its content alone. -/
theorem pack_eq_ok_iff {files : FileTree} {request : AssemblyRequest} {context : List UInt8} :
    pack files request = .ok context ↔
      ∃ content, files.read request.artifact.stagedPath = .ok content ∧
        context = archive request.containerfile content := by
  unfold pack
  dsimp only
  cases files.read request.artifact.stagedPath with
  | error fault => simp
  | ok content => simp [archive, eq_comm]

/-- Both names and permissions fit their fields, whatever the contents. -/
theorem writable_newFiles (containerfile : String) (artifact : List UInt8) :
    ∀ file ∈ newFiles containerfile artifact, file.Writable := by
  have hmodes : containerfileMode < 8 ^ 7 ∧ artifactMode < 8 ^ 7 := by decide
  have hnames : ∀ name ∈ [AssemblyRequest.containerfileName, AssemblyRequest.artifactEntryName],
      (Utf8.encode name).length ≤ 100 ∧ 0 ∉ Utf8.encode name := by decide +kernel
  rw [List.forall_mem_cons, List.forall_mem_singleton] at hnames
  rw [newFiles, List.forall_mem_cons, List.forall_mem_singleton]
  exact ⟨⟨hnames.1.1, hnames.1.2, hmodes.1⟩, ⟨hnames.2.1, hnames.2.2, hmodes.2⟩⟩

/-- Contents whose archive can be written and read. A text in memory has fewer than 2^63 bytes;
the artifact's size is to fit its octal digits. -/
structure Fits (containerfile : String) (artifact : List UInt8) : Prop where
  containerfile : (Utf8.encode containerfile).length < 2 ^ 63
  artifact : artifact.length < Archive.octalBound

variable {containerfile containerfile' : String} {artifact artifact' : List UInt8}

theorem length_archive_lt (h : Fits containerfile artifact) :
    (archive containerfile artifact).length < Archive.sizeBound := by
  have hbound : Archive.sizeBound = 2 ^ 64 := rfl
  have hoctal : Archive.octalBound = 2 ^ 33 := rfl
  have htext := h.containerfile
  have hcontent := h.artifact
  have hfiles := writable_newFiles containerfile artifact
  rw [newFiles, List.forall_mem_cons, List.forall_mem_singleton] at hfiles
  rw [archive, newFiles, Archive.write_cons, Archive.write_cons, List.length_append,
    List.length_append, hfiles.1.length_blocks, hfiles.2.length_blocks]
  simp only [Archive.paddedSize, Archive.blockSize, Archive.write, List.flatMap_nil,
    List.nil_append, Archive.length_zeros]
  omega

theorem entries_archive (h : (archive containerfile artifact).length < Archive.sizeBound) :
    Archive.entries (archive containerfile artifact) =
      ((newFiles containerfile artifact).map Archive.NewFile.entry, none) :=
  Archive.entries_write (writable_newFiles containerfile artifact) h

/-- The entries read back say what the context was packed from. -/
theorem told_archive (h : (archive containerfile artifact).length < Archive.sizeBound) :
    (Archive.entries (archive containerfile artifact)).1.map Archive.Entry.told =
      [(AssemblyRequest.containerfileName, .ok containerfileMode, Utf8.encode containerfile),
        (AssemblyRequest.artifactEntryName, .ok artifactMode, artifact)] := by
  have hnames : ∀ name ∈ [AssemblyRequest.containerfileName, AssemblyRequest.artifactEntryName],
      Utf8.decodeLossy (Utf8.encode name) = name := by decide +kernel
  rw [List.forall_mem_cons, List.forall_mem_singleton] at hnames
  have hfiles := writable_newFiles containerfile artifact
  rw [newFiles, List.forall_mem_cons, List.forall_mem_singleton] at hfiles
  rw [entries_archive h]
  simp only [newFiles, List.map_cons, List.map_nil, Archive.NewFile.entry, Archive.Entry.told,
    Archive.Entry.name, hnames, Archive.NewFile.header, Archive.mode_header _ _ hfiles.1.mode,
    Archive.mode_header _ _ hfiles.2.mode]

/-- Where every entry has permissions, a whole archive is listed as its entries say. -/
theorem list_eq_ok {packed : List UInt8} {entries : List Archive.Entry}
    {listed : List (String × Nat)} (hread : Archive.entries packed = (entries, none))
    (hlisted : entries.map (fun entry => (entry.name, entry.header.mode)) =
      listed.map fun (name, mode) => (name, .ok mode)) :
    list packed = .ok listed := by
  have hmap : entries.mapM (fun entry => do
      let mode ← entry.header.mode.mapError Archive.Fault.toFailure
      pure (entry.name, mode)) = .ok listed := by
    clear hread
    induction listed generalizing entries with
    | nil => rw [List.map_eq_nil_iff.mp hlisted]; rfl
    | cons binding listed ih =>
        cases entries with
        | nil => cases hlisted
        | cons entry entries =>
            obtain ⟨hfirst, hrest⟩ := List.cons.inj hlisted
            obtain ⟨hname, hmode⟩ := Prod.mk.inj hfirst
            rw [List.mapM_cons, ih hrest, hname, hmode]
            rfl
  rw [list, hread]
  dsimp only
  rw [hmap]
  rfl

/-- Archives that can be read back are equal only if their contents are. -/
theorem archive_eq_iff (h : (archive containerfile artifact).length < Archive.sizeBound) :
    archive containerfile' artifact' = archive containerfile artifact ↔
      containerfile' = containerfile ∧ artifact' = artifact := by
  constructor
  · intro hsame
    have htold := told_archive h
    have h' : (archive containerfile' artifact').length < Archive.sizeBound := by
      rw [hsame]
      exact h
    have htold' := told_archive h'
    rw [hsame, htold] at htold'
    simp only [List.cons.injEq, Prod.mk.injEq, true_and, and_true] at htold'
    exact ⟨Utf8.encode_injective htold'.1.symm, htold'.2.symm⟩
  · rintro ⟨rfl, rfl⟩
    rfl

/-- Whatever the request, its context is packed once the staged file can be read, and it reads
back as the containerfile and the artifact. Another request and another state of the files give
the same archive exactly when the containerfile and the staged content are the same. -/
theorem pack_reads_back {files : FileTree} {request : AssemblyRequest} {content : List UInt8}
    (hread : files.read request.artifact.stagedPath = .ok content)
    (hfits : Fits request.containerfile content) :
    ∃ packed, pack files request = .ok packed ∧
      (Archive.entries packed).2 = none ∧
      (Archive.entries packed).1.map Archive.Entry.told =
        [("Containerfile", .ok 0o644, Utf8.encode request.containerfile),
          ("artifact", .ok 0o755, content)] ∧
      list packed = .ok [("Containerfile", 0o644), ("artifact", 0o755)] ∧
      ∀ (files' : FileTree) (request' : AssemblyRequest) (content' : List UInt8),
        files'.read request'.artifact.stagedPath = .ok content' →
          (pack files' request' = .ok packed ↔
            request'.containerfile = request.containerfile ∧ content' = content) := by
  have hlength := length_archive_lt hfits
  have hentries := entries_archive hlength
  have htold := told_archive hlength
  refine ⟨archive request.containerfile content, pack_eq_ok_iff.mpr ⟨content, hread, rfl⟩,
    by rw [hentries], htold, list_eq_ok hentries ?_, ?_⟩
  · rw [hentries] at htold
    have hlisted := congrArg (List.map fun told => (told.1, told.2.1)) htold
    rw [List.map_map] at hlisted
    exact hlisted
  · intro files' request' content' hread'
    rw [← archive_eq_iff hlength, pack_eq_ok_iff, hread', eq_comm (b := archive _ _)]
    simp

/-- A host on which the sample artifact is staged. -/
def stagedFiles : FileTree where
  nodes := [(["staging"], .directory),
    (["staging", "service"], .file artifactMode [0x7f, 0x45, 0x4c, 0x46])]
  workingDir := []

/-- The request for the sample artifact. -/
def stagedRequest : AssemblyRequest :=
  .ofArtifact PipelineDefinition.sample.runtime AssemblyRequest.sampleArtifact "service:1"
    "service" "f00d"

theorem pack_stagedRequest :
    ∃ packed, pack stagedFiles stagedRequest = .ok packed ∧
      (Archive.entries packed).1.map Archive.Entry.told =
        [("Containerfile", .ok 0o644, Utf8.encode stagedRequest.containerfile),
          ("artifact", .ok 0o755, [0x7f, 0x45, 0x4c, 0x46])] := by
  have hread : stagedFiles.read stagedRequest.artifact.stagedPath =
      .ok [0x7f, 0x45, 0x4c, 0x46] := by decide +kernel
  have hfits : Fits stagedRequest.containerfile [0x7f, 0x45, 0x4c, 0x46] :=
    ⟨by decide +kernel, by decide⟩
  obtain ⟨packed, hpacked, -, htold, -⟩ := pack_reads_back hread hfits
  exact ⟨packed, hpacked, htold⟩

end BuildContext

end SealedBuild
