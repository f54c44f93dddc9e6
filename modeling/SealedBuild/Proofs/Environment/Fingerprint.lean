import SealedBuild.Proofs.Environment.Received
import SealedBuild.Proofs.Text.Rows
import SealedBuild.Proofs.Text.Utf8

/-!
# What a fingerprint tells apart

The canonical text of a build has one labelled line for each thing that it hashes. The texts on
these lines stand there as they are, and the flags are not among them: they show only in the
variables that follow from them. Builds are told apart where no text holds a line that begins
like a canonical one, no name holds an equals sign, and no flag's variable is declared by hand.
-/

namespace SealedBuild

namespace BuildEnvironment

variable {e e' : BuildEnvironment} {commands commands' : List String}

/-- Two builds agree in everything that a fingerprint is meant to stand for. -/
structure SameBuild (e : BuildEnvironment) (commands : List String) (e' : BuildEnvironment)
    (commands' : List String) : Prop where
  toolchain : e.toolchain.imageRef = e'.toolchain.imageRef
  packageManager : e.packageManager = e'.packageManager
  packages : e.packages = e'.packages
  flags : e.flags = e'.flags
  compilerEnv : e.compilerEnv = e'.compilerEnv
  commands : commands = commands'

/-- The labels of the canonical text. -/
def labels : List String :=
  ["toolchain", "package-manager", "package", "env", "run"]

/-- Whether a line begins with a label and an equals sign. -/
def beginsItem (line : List Char) : Bool :=
  labels.any fun label => (label ++ "=").toList.isPrefixOf line

/-- No line of a text but its first begins like a line of the canonical text. -/
def Unmistakable (text : String) : Prop :=
  ∀ line ∈ (text.toList.splitOn '\n').tail, beginsItem line = false

/-- The texts of a build can be read back from the canonical text. -/
structure Legible (e : BuildEnvironment) (commands : List String) : Prop where
  toolchain : Unmistakable e.toolchain.imageRef
  packages : ∀ package ∈ e.packages.names, Unmistakable package
  assignments : ∀ assignment ∈ e.compilerEnv.assignments, Unmistakable assignment
  names : ∀ name ∈ e.compilerEnv.names, '=' ∉ name.toList
  commands : ∀ command ∈ commands, Unmistakable command

/-- The variables that the flags set. -/
def flagVariables (e : BuildEnvironment) : List String :=
  e.linkageVariable e.flags.staticCrypto :: if e.flags.strip then ["RUSTFLAGS"] else []

/-- No variable that a flag of one environment sets is declared by hand in another. -/
def Undisguised (e e' : BuildEnvironment) : Prop :=
  ∀ name ∈ e.flagVariables, name ∉ e'.extraEnv.names

/-- Two builds that can be told apart by their canonical texts. -/
structure Separable (e : BuildEnvironment) (commands : List String) (e' : BuildEnvironment)
    (commands' : List String) : Prop where
  left : e.Legible commands
  right : e'.Legible commands'
  forth : e.Undisguised e'
  back : e'.Undisguised e

/-! ## The items of the canonical text -/

/-- What the canonical text lists: the labels and what stands behind each. -/
def items (e : BuildEnvironment) (commands : List String) : List (String × String) :=
  [("toolchain", e.toolchain.imageRef), ("package-manager", e.packageManager.name)] ++
    e.packages.names.map (fun package => ("package", package)) ++
    e.compilerEnv.assignments.map (fun assignment => ("env", assignment)) ++
    commands.map (fun command => ("run", command))

/-- An item as one row of the canonical text. -/
def itemText (item : String × String) : String :=
  item.1 ++ "=" ++ item.2

/-- What stands behind a label. -/
def valuesOf (label : String) (items : List (String × String)) : List String :=
  items.filterMap fun item => if item.1 = label then some item.2 else none

theorem canonicalText_toList (e : BuildEnvironment) (commands : List String) :
    (e.canonicalText commands).toList =
      ((e.items commands).map fun item => (itemText item).toList).flatMap (· ++ ['\n']) := by
  simp [canonicalText, items, canonicalLine, itemText, String.toList_join, List.flatMap_map]

theorem label_mem_of_mem_items {item : String × String} (h : item ∈ e.items commands) :
    item.1 ∈ labels := by
  simp only [items, List.mem_append, List.mem_cons, List.not_mem_nil, or_false,
    List.mem_map] at h
  rcases h with (((rfl | rfl) | ⟨_, _, rfl⟩) | ⟨_, _, rfl⟩) | ⟨_, _, rfl⟩ <;> simp [labels]

theorem equals_not_mem_label {label : String} (h : label ∈ labels) : '=' ∉ label.toList := by
  revert h label
  decide

theorem newline_not_mem_label {label : String} (h : label ∈ labels) : '\n' ∉ label.toList := by
  revert h label
  decide

/-- Names and values are read from their rows where no name holds an equals sign. -/
theorem map_reading_itemText {items : List (String × String)}
    (h : ∀ item ∈ items, '=' ∉ item.1.toList) :
    (items.map itemText).map VarMap.reading = items := by
  rw [List.map_map]
  exact (List.map_congr_left fun item hitem =>
    VarMap.reading_of_not_mem (h item hitem) item.2).trans (List.map_id _)

/-- The items can be read from their rows. -/
theorem map_reading_items (e : BuildEnvironment) (commands : List String) :
    ((e.items commands).map itemText).map VarMap.reading = e.items commands :=
  map_reading_itemText fun _ hitem => equals_not_mem_label (label_mem_of_mem_items hitem)

theorem valuesOf_append (label : String) (items items' : List (String × String)) :
    valuesOf label (items ++ items') = valuesOf label items ++ valuesOf label items' :=
  List.filterMap_append

theorem valuesOf_labelled (label other : String) (texts : List String) :
    valuesOf label (texts.map fun text => (other, text)) = if other = label then texts else [] := by
  rw [valuesOf, List.filterMap_map]
  split
  next hsame => simp [hsame]
  next hother => simp [hother]

theorem valuesOf_items (label : String) (e : BuildEnvironment) (commands : List String) :
    valuesOf label (e.items commands) =
      (if "toolchain" = label then [e.toolchain.imageRef] else []) ++
        (if "package-manager" = label then [e.packageManager.name] else []) ++
        (if "package" = label then e.packages.names else []) ++
        (if "env" = label then e.compilerEnv.assignments else []) ++
        (if "run" = label then commands else []) := by
  have hitems : e.items commands =
      [e.toolchain.imageRef].map (fun text => ("toolchain", text)) ++
        [e.packageManager.name].map (fun text => ("package-manager", text)) ++
        e.packages.names.map (fun text => ("package", text)) ++
        e.compilerEnv.assignments.map (fun text => ("env", text)) ++
        commands.map (fun text => ("run", text)) := rfl
  rw [hitems]
  simp only [valuesOf_append, valuesOf_labelled]

/-- A text of one line is legible. -/
theorem unmistakable_of_not_mem {text : String} (h : '\n' ∉ text.toList) : Unmistakable text := by
  rw [Unmistakable, List.splitOn_eq_singleton h]
  nofun

theorem Legible.unmistakable (h : e.Legible commands) {item : String × String}
    (hitem : item ∈ e.items commands) : Unmistakable item.2 := by
  simp only [items, List.mem_append, List.mem_cons, List.not_mem_nil, or_false,
    List.mem_map] at hitem
  rcases hitem with (((rfl | rfl) | ⟨_, hmem, rfl⟩) | ⟨_, hmem, rfl⟩) | ⟨_, hmem, rfl⟩
  · exact h.toolchain
  · apply unmistakable_of_not_mem
    cases e.packageManager <;> decide
  · exact h.packages _ hmem
  · exact h.assignments _ hmem
  · exact h.commands _ hmem

theorem beginsItem_append {label : String} (h : label ∈ labels) (line : List Char) :
    beginsItem ((label ++ "=").toList ++ line) = true := by
  rw [beginsItem, List.any_eq_true]
  exact ⟨label, h, List.isPrefixOf_iff_prefix.mpr (List.prefix_append _ _)⟩

/-- The first line of an item is marked by its label, and the others are not. -/
theorem headed_of_unmistakable {label value : String} (hlabel : label ∈ labels)
    (hvalue : Unmistakable value) :
    Text.Headed beginsItem ((itemText (label, value)).toList.splitOn '\n') := by
  have hfront : '\n' ∉ (label ++ "=").toList := by
    simp [newline_not_mem_label hlabel]
  obtain ⟨first, rest, hparts⟩ :=
    List.exists_cons_of_ne_nil (List.splitOn_ne_nil '\n' value.toList)
  have htext : (itemText (label, value)).toList = (label ++ "=").toList ++ value.toList := by
    simp [itemText]
  refine ⟨(label ++ "=").toList ++ first, rest, ?_, beginsItem_append hlabel first, ?_⟩
  · rw [htext, Text.splitOn_append_of_not_mem hfront, hparts, List.modifyHead_cons]
  · intro line hline
    apply hvalue
    rwa [hparts]

/-- Legible builds with one canonical text list the same items. -/
theorem items_eq_of_canonicalText_eq (h : e.Legible commands) (h' : e'.Legible commands')
    (htext : e.canonicalText commands = e'.canonicalText commands') :
    e.items commands = e'.items commands' := by
  have hrows := congrArg String.toList htext
  rw [canonicalText_toList, canonicalText_toList] at hrows
  have hheaded {e : BuildEnvironment} {commands : List String} (h : e.Legible commands) :
      ∀ group ∈ (e.items commands).map fun item => (itemText item).toList.splitOn '\n',
        Text.Headed beginsItem group := by
    intro group hgroup
    obtain ⟨item, hitem, rfl⟩ := List.mem_map.mp hgroup
    exact headed_of_unmistakable (label_mem_of_mem_items hitem) (h.unmistakable hitem)
  have hparts := Text.parts_eq_of_rows_eq hrows
  rw [List.flatMap_map, List.flatMap_map] at hparts
  have hgroups := Text.eq_of_flatten_eq (hheaded h) (hheaded h') hparts
  -- Each group, put together again, is the row of its item.
  have hjoin {items : List (String × String)} :
      (items.map fun item => (itemText item).toList.splitOn '\n').map
        (fun group => String.ofList (['\n'].intercalate group)) = items.map itemText := by
    simp [Function.comp_def, List.intercalate_splitOn]
  have htexts := congrArg
    (List.map fun group => String.ofList (['\n'].intercalate group)) hgroups
  rw [hjoin, hjoin] at htexts
  rw [← map_reading_items e, htexts, map_reading_items]

/-! ## Flags

A flag shows only in the variable that it sets. The names of these variables tell which flag
set them, whatever the library is called.
-/

theorem flagVariables_subset {name : String} (h : name ∈ e.flagVariables) :
    name ∈ e.derivedEnv.names := by
  rw [mem_names_derivedEnv, derivedBindings]
  rw [flagVariables, List.mem_cons] at h
  rcases h with rfl | h
  · simp
  · split at h <;> simp_all

/-- What the name of a linkage variable ends in. -/
def linkageEnding (static : Bool) : List Char :=
  ending (if static then "_STATIC" else "_DYNAMIC")

theorem ending_linkageVariable (e : BuildEnvironment) (static : Bool) :
    ending (e.linkageVariable static) = linkageEnding static :=
  ending_append _ (by cases static <;> decide)

theorem linkageEnding_injective : Function.Injective linkageEnding := by
  rintro (_ | _) (_ | _) h
  · rfl
  · exact absurd h (by decide)
  · exact absurd h (by decide)
  · rfl

/-- No other derived variable ends as one that selects the linkage. -/
theorem linkageEnding_not_mem (static : Bool) :
    linkageEnding static ∉
      ["_LIB_DIR", "_INCLUDE_DIR", "RUSTFLAGS", "CARGO_TARGET_DIR"].map ending := by
  cases static <;> decide

/-- What the names of derived variables end in. -/
theorem ending_of_mem_derivedEnv {name : String} (h : name ∈ e.derivedEnv.names) :
    ending name = linkageEnding e.flags.staticCrypto ∨
      ending name ∈ ["_LIB_DIR", "_INCLUDE_DIR", "CARGO_TARGET_DIR"].map ending ∨
      e.flags.strip = true ∧ name = "RUSTFLAGS" := by
  rw [mem_names_derivedEnv, derivedBindings] at h
  simp only [List.map_append, List.mem_append, List.map_cons, List.map_nil, List.mem_singleton,
    List.map_map, List.mem_map, Function.comp_apply] at h
  rcases h with (((rfl | ⟨_, _, rfl⟩) | ⟨_, _, rfl⟩) | ⟨binding, hbinding, rfl⟩) | rfl
  · exact .inl (e.ending_linkageVariable _)
  · rw [ending_append _ (show 5 ≤ "_LIB_DIR".toList.length by decide)]
    exact .inr (.inl (by decide))
  · rw [ending_append _ (show 5 ≤ "_INCLUDE_DIR".toList.length by decide)]
    exact .inr (.inl (by decide))
  · split at hbinding
    next hstrip =>
      rw [List.mem_singleton.mp hbinding]
      exact .inr (.inr ⟨hstrip, rfl⟩)
    next => cases hbinding
  · exact .inr (.inl (by decide))

theorem strip_of_mem_derivedEnv (h : "RUSTFLAGS" ∈ e.derivedEnv.names) :
    e.flags.strip = true := by
  rcases ending_of_mem_derivedEnv h with hending | hending | hstrip
  · have hother := linkageEnding_not_mem e.flags.staticCrypto
    rw [← hending] at hother
    exact absurd hother (by decide)
  · exact absurd hending (by decide)
  · exact hstrip.1

theorem staticCrypto_of_mem_derivedEnv {static : Bool}
    (h : e'.linkageVariable static ∈ e.derivedEnv.names) : e.flags.staticCrypto = static := by
  have hlinkage := e'.ending_linkageVariable static
  have hother := linkageEnding_not_mem static
  rcases ending_of_mem_derivedEnv h with hending | hending | ⟨_, hname⟩
  · exact linkageEnding_injective (hending.symm.trans hlinkage)
  · rw [hlinkage] at hending
    simp_all
  · rw [hname] at hlinkage
    rw [← hlinkage] at hother
    exact absurd hother (by decide)

/-- A flag's variable that is not declared by hand in an environment is derived in it. -/
theorem flagVariables_derived (hcheck : e.check = .ok ()) (hcheck' : e'.check = .ok ())
    (hsame : e.compilerEnv = e'.compilerEnv) (hapart : e.Undisguised e') {name : String}
    (hname : name ∈ e.flagVariables) : name ∈ e'.derivedEnv.names := by
  have hbound : name ∈ e.compilerEnv.names :=
    (mem_names_compilerEnv hcheck).mpr (.inl (flagVariables_subset hname))
  rw [hsame, mem_names_compilerEnv hcheck'] at hbound
  exact hbound.resolve_right (hapart name hname)

theorem flags_eq_of_compilerEnv_eq (hcheck : e.check = .ok ()) (hcheck' : e'.check = .ok ())
    (hsame : e.compilerEnv = e'.compilerEnv) (hapart : e.Undisguised e')
    (hapart' : e'.Undisguised e) : e.flags = e'.flags := by
  have hstatic : e'.flags.staticCrypto = e.flags.staticCrypto :=
    staticCrypto_of_mem_derivedEnv
      (flagVariables_derived hcheck hcheck' hsame hapart List.mem_cons_self)
  have hstrip {e e' : BuildEnvironment} (hcheck : e.check = .ok ()) (hcheck' : e'.check = .ok ())
      (hsame : e.compilerEnv = e'.compilerEnv) (hapart : e.Undisguised e')
      (hset : e.flags.strip = true) : e'.flags.strip = true := by
    apply strip_of_mem_derivedEnv
    apply flagVariables_derived hcheck hcheck' hsame hapart
    simp [flagVariables, hset]
  have hboth : e.flags.strip = e'.flags.strip := by
    rw [Bool.eq_iff_iff]
    exact ⟨hstrip hcheck hcheck' hsame hapart, hstrip hcheck' hcheck hsame.symm hapart'⟩
  cases hflags : e.flags
  cases hflags' : e'.flags
  simp_all

/-! ## Fingerprints -/

theorem compilerEnv_eq_of_assignments_eq (h : e.Legible commands) (h' : e'.Legible commands')
    (hsame : e.compilerEnv.assignments = e'.compilerEnv.assignments) :
    e.compilerEnv = e'.compilerEnv := by
  have hread {m : VarMap} (hnames : ∀ name ∈ m.names, '=' ∉ name.toList) :
      m.assignments.map VarMap.reading = m.entries :=
    map_reading_itemText fun _ hbinding => hnames _ (VarMap.mem_names_of_mem hbinding)
  have hentries : e.compilerEnv.entries = e'.compilerEnv.entries := by
    rw [← hread h.names, hsame, hread h'.names]
  cases hleft : e.compilerEnv
  cases hright : e'.compilerEnv
  simp_all

theorem sameBuild_of_canonicalText_eq (hcheck : e.check = .ok ()) (hcheck' : e'.check = .ok ())
    (h : e.Separable commands e' commands')
    (htext : e.canonicalText commands = e'.canonicalText commands') :
    e.SameBuild commands e' commands' := by
  have hitems := items_eq_of_canonicalText_eq h.left h.right htext
  have hvalues (label : String) :
      valuesOf label (e.items commands) = valuesOf label (e'.items commands') :=
    congrArg (valuesOf label) hitems
  simp only [valuesOf_items] at hvalues
  have htoolchain : e.toolchain.imageRef = e'.toolchain.imageRef := by
    simpa using hvalues "toolchain"
  have hmanager : e.packageManager.name = e'.packageManager.name := by
    simpa using hvalues "package-manager"
  have hpackages : e.packages.names = e'.packages.names := by simpa using hvalues "package"
  have hassignments : e.compilerEnv.assignments = e'.compilerEnv.assignments := by
    simpa using hvalues "env"
  have hcommands : commands = commands' := by simpa using hvalues "run"
  have henv := compilerEnv_eq_of_assignments_eq h.left h.right hassignments
  refine ⟨htoolchain, ?manager, ?packages, ?flags, henv, hcommands⟩
  case manager =>
    revert hmanager
    cases e.packageManager <;> cases e'.packageManager <;> decide
  case packages =>
    cases hleft : e.packages
    cases hright : e'.packages
    simp_all
  case flags => exact flags_eq_of_compilerEnv_eq hcheck hcheck' henv h.forth h.back

/-- The bytes that a fingerprint hashes are the same for two accepted builds that can be told
apart exactly when they agree in everything that the fingerprint stands for. -/
theorem encode_canonicalText_eq_iff (hvalid : e.validate = .ok ()) (hvalid' : e'.validate = .ok ())
    (h : e.Separable commands e' commands') :
    Utf8.encode (e.canonicalText commands) = Utf8.encode (e'.canonicalText commands') ↔
      e.SameBuild commands e' commands' := by
  rw [Utf8.encode_injective.eq_iff]
  constructor
  · exact sameBuild_of_canonicalText_eq (mapError_eq_ok_iff.mp hvalid)
      (mapError_eq_ok_iff.mp hvalid') h
  · intro hsame
    rw [canonicalText, canonicalText, hsame.toolchain, hsame.packageManager, hsame.packages,
      hsame.compilerEnv, hsame.commands]

/-- The environment of the sample pipeline. -/
def sample : BuildEnvironment := PipelineDefinition.sample.builder.environment

theorem validate_sampleEnvironment : sample.validate = .ok () :=
  eq_ok_iff_toBool.mpr (by decide +kernel)

theorem legible_sample {command : String} (hcommand : '\n' ∉ command.toList) :
    sample.Legible [command] where
  toolchain := unmistakable_of_not_mem (by decide +kernel)
  packages := nofun
  assignments := by
    have hlines : ∀ assignment ∈ sample.compilerEnv.assignments, '\n' ∉ assignment.toList := by
      decide +kernel
    exact fun assignment hassignment => unmistakable_of_not_mem (hlines assignment hassignment)
  names := by decide +kernel
  commands := by simpa using unmistakable_of_not_mem hcommand

theorem encode_canonicalText_sample_ne :
    Utf8.encode (sample.canonicalText ["make"]) ≠
      Utf8.encode (sample.canonicalText ["make check"]) := by
  have hplain : sample.Undisguised sample := fun _ _ => nofun
  intro hsame
  have hbuild := (encode_canonicalText_eq_iff validate_sampleEnvironment validate_sampleEnvironment
    ⟨legible_sample (by decide), legible_sample (by decide), hplain, hplain⟩).mp hsame
  exact absurd hbuild.commands (by decide)

/-- The flag that strips the artifact cannot be told from its variable declared by hand, nor one
command of two lines from two commands. -/
theorem exists_canonicalText_shared :
    (∃ e e' : BuildEnvironment, e.validate = .ok () ∧ e'.validate = .ok () ∧
      Utf8.encode (e.canonicalText ["make"]) = Utf8.encode (e'.canonicalText ["make"]) ∧
      e.flags ≠ e'.flags ∧ ¬ e.SameBuild ["make"] e' ["make"]) ∧
    ∃ (e : BuildEnvironment) (commands commands' : List String), e.validate = .ok () ∧
      Utf8.encode (e.canonicalText commands) = Utf8.encode (e.canonicalText commands') ∧
      ¬ e.SameBuild commands e commands' := by
  constructor
  · refine ⟨sample, (sample.withFlags { strip := false }).withEnv "RUSTFLAGS" stripFlag,
      validate_sampleEnvironment, eq_ok_iff_toBool.mpr (by decide +kernel), ?_, by decide,
      fun hsame => absurd hsame.flags (by decide)⟩
    have henv : sample.compilerEnv =
        ((sample.withFlags { strip := false }).withEnv "RUSTFLAGS" stripFlag).compilerEnv := by
      decide +kernel
    rw [canonicalText, canonicalText, henv]
    rfl
  · refine ⟨sample, ["make\nrun=make check"], ["make", "make check"],
      validate_sampleEnvironment, ?_, fun hsame => absurd hsame.commands (by decide)⟩
    rw [canonicalText, canonicalText, List.map_singleton]
    decide +kernel

end BuildEnvironment

end SealedBuild
