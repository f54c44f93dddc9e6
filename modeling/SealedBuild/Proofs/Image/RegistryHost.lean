import SealedBuild.Proofs.Image.Reference

/-!
# Registry hosts

The check of an image reference looks at each character of a registry, but not at how they follow
each other. What a host is, is said by a grammar here: labels with points between them, and a port
behind a colon. An accepted registry is one exactly if its points are spaced and its colon has a
port behind it.
-/

namespace SealedBuild.ImageTag

/-! ## The grammar -/

/-- The digits of ASCII. -/
def IsDigit (c : Char) : Prop :=
  '0' ≤ c ∧ c ≤ '9'

/-- The form of a label of a host name. -/
structure IsLabel (label : List Char) : Prop where
  nonempty : label ≠ []
  chars : ∀ c ∈ label, IsAlphanumeric c ∨ c = '-'

/-- The form of a host name: labels with points between them. -/
inductive IsHostName : List Char → Prop where
  | label {label : List Char} (h : IsLabel label) : IsHostName label
  | cons {label name : List Char} (hlabel : IsLabel label) (hname : IsHostName name) :
      IsHostName (label ++ '.' :: name)

/-- The form of a port. -/
structure IsPort (port : List Char) : Prop where
  nonempty : port ≠ []
  chars : ∀ c ∈ port, IsDigit c

/-- The form of a host: a name, with a port behind a colon if there is one. -/
inductive IsHost : List Char → Prop where
  | bare {name : List Char} (hname : IsHostName name) : IsHost name
  | port {name port : List Char} (hname : IsHostName name) (hport : IsPort port) :
      IsHost (name ++ ':' :: port)

/-! ## What the check leaves open -/

/-- No point is at either end of a name or next to another one. -/
structure Spaced (name : List Char) : Prop where
  nonempty : name ≠ []
  first : name.head? ≠ some '.'
  last : name.getLast? ≠ some '.'
  between : ¬ ['.', '.'] <:+: name

/-- The points of a host are spaced, and what stands behind its first colon is a port. -/
def Tidy (host : List Char) : Prop :=
  match Text.cutFirst ':' host with
  | none => Spaced host
  | some (name, port) => Spaced name ∧ IsPort port

variable {label name port host : List Char}

theorem Spaced.of_point_not_mem (hne : name ≠ []) (h : '.' ∉ name) : Spaced name where
  nonempty := hne
  first hfirst := h (List.mem_of_head? hfirst)
  last hlast := h (List.mem_of_getLast? hlast)
  between hbetween := h (hbetween.subset List.mem_cons_self)

/-- A label and a point go before a name that is spaced, and before no other one. -/
theorem spaced_append_cons_iff (hpoint : '.' ∉ label) :
    Spaced (label ++ '.' :: name) ↔ label ≠ [] ∧ Spaced name := by
  constructor
  · intro h
    refine ⟨?label, ?nonempty, ?first, ?last, ?between⟩
    case label =>
      rintro rfl
      exact h.first rfl
    case nonempty =>
      rintro rfl
      exact h.last (List.getLast?_concat)
    case first =>
      intro hfirst
      obtain ⟨rest, rfl⟩ := List.head?_eq_some_iff.mp hfirst
      exact h.between ⟨label, rest, by simp⟩
    case last =>
      intro hlast
      apply h.last
      rw [List.getLast?_append, List.getLast?_cons, hlast]
      rfl
    case between => exact fun hbetween => h.between (hbetween.trans ⟨label ++ ['.'], [], by simp⟩)
  · rintro ⟨hlabel, hname⟩
    refine ⟨List.append_ne_nil_of_left_ne_nil hlabel _, ?first, ?last, ?between⟩
    case first =>
      rw [List.head?_append_of_ne_nil label hlabel]
      exact fun hfirst => hpoint (List.mem_of_head? hfirst)
    case last =>
      have hlast : (label ++ '.' :: name).getLast? = name.getLast? := by
        rw [List.getLast?_append, List.getLast?_cons,
          List.getLast?_eq_some_getLast hname.nonempty]
        rfl
      rw [hlast]
      exact hname.last
    case between =>
      intro hbetween
      have hbehind := Text.cons_infix_of_not_mem hpoint hbetween
      rcases List.infix_cons_iff.mp hbehind with ⟨rest, hrest⟩ | hlater
      · cases hrest
        exact hname.first rfl
      · exact hname.between hlater

/-! ## Host names -/

theorem IsLabel.point_not_mem (h : IsLabel label) : '.' ∉ label := by
  intro hpoint
  rcases h.chars '.' hpoint with hletter | hhyphen
  · revert hletter
    rw [← isAlphanum_iff]
    decide
  · revert hhyphen
    decide

theorem isLabel_of_point_not_mem (hne : label ≠ []) (hpoint : '.' ∉ label)
    (hchars : ∀ c ∈ label, IsAlphanumeric c ∨ c ∈ ['.', '-']) : IsLabel label := by
  refine ⟨hne, fun c hc => (hchars c hc).imp_right fun hmark => ?_⟩
  rcases List.mem_cons.mp hmark with rfl | hhyphen
  · exact absurd hc hpoint
  · exact List.mem_singleton.mp hhyphen

namespace IsHostName

theorem chars (h : IsHostName name) : ∀ c ∈ name, IsAlphanumeric c ∨ c ∈ ['.', '-'] := by
  have hlabel {label : List Char} (h : IsLabel label) :
      ∀ c ∈ label, IsAlphanumeric c ∨ c ∈ ['.', '-'] := by
    intro c hc
    exact (h.chars c hc).imp_right fun hhyphen => by simp [hhyphen]
  induction h with
  | label h => exact hlabel h
  | cons h _ ih =>
      rw [List.forall_mem_append, List.forall_mem_cons]
      exact ⟨hlabel h, .inr List.mem_cons_self, ih⟩

theorem spaced (h : IsHostName name) : Spaced name := by
  induction h with
  | label h => exact .of_point_not_mem h.nonempty h.point_not_mem
  | cons h _ ih => exact (spaced_append_cons_iff h.point_not_mem).mpr ⟨h.nonempty, ih⟩

/-- A spaced name is one label, or one with a spaced name behind it. -/
theorem of_spaced {name : List Char} (hchars : ∀ c ∈ name, IsAlphanumeric c ∨ c ∈ ['.', '-'])
    (h : Spaced name) : IsHostName name := by
  cases hcut : Text.cutFirst '.' name with
  | none =>
      have hpoint := Text.cutFirst_eq_none_iff.mp hcut
      exact .label (isLabel_of_point_not_mem h.nonempty hpoint hchars)
  | some parts =>
      obtain ⟨label, rest⟩ := parts
      obtain ⟨rfl, hpoint⟩ := Text.cutFirst_eq_some_iff.mp hcut
      obtain ⟨hlabel, hrest⟩ := (spaced_append_cons_iff hpoint).mp h
      obtain ⟨hcharsLabel, hcharsRest⟩ := List.forall_mem_append.mp hchars
      exact .cons (isLabel_of_point_not_mem hlabel hpoint hcharsLabel)
        (of_spaced (List.forall_mem_cons.mp hcharsRest).2 hrest)
termination_by name.length

end IsHostName

/-! ## Hosts -/

theorem colon_not_mem_of_chars (hchars : ∀ c ∈ name, IsAlphanumeric c ∨ c ∈ ['.', '-']) :
    ':' ∉ name := by
  intro hcolon
  rcases hchars ':' hcolon with hletter | hmark
  · exact hletter.ne_separator.2 rfl
  · revert hmark
    decide

/-- Of the texts made of the characters of a host exactly the tidy ones are hosts. -/
theorem isHost_iff (hchars : ∀ c ∈ host, IsAlphanumeric c ∨ c ∈ ['.', '-', ':']) :
    IsHost host ↔ Tidy host := by
  constructor
  · rintro (hname | ⟨hname, hport⟩)
    · have hcut := Text.cutFirst_eq_none_iff.mpr (colon_not_mem_of_chars hname.chars)
      rw [Tidy, hcut]
      exact hname.spaced
    · rw [Tidy, Text.cutFirst_append_cons (colon_not_mem_of_chars hname.chars)]
      exact ⟨hname.spaced, hport⟩
  · intro h
    have hname {name : List Char} (hsub : name ⊆ host) (hcolon : ':' ∉ name) :
        ∀ c ∈ name, IsAlphanumeric c ∨ c ∈ ['.', '-'] := by
      intro c hc
      have hne : c ≠ ':' := ne_of_mem_of_not_mem hc hcolon
      simpa [hne] using hchars c (hsub hc)
    unfold Tidy at h
    cases hcut : Text.cutFirst ':' host with
    | none =>
        rw [hcut] at h
        have hcolon := Text.cutFirst_eq_none_iff.mp hcut
        exact .bare (.of_spaced (hname (List.Subset.refl host) hcolon) h)
    | some parts =>
        obtain ⟨name, port⟩ := parts
        rw [hcut] at h
        obtain ⟨rfl, hcolon⟩ := Text.cutFirst_eq_some_iff.mp hcut
        exact .port (.of_spaced (hname (List.subset_append_left _ _) hcolon) h.1) h.2

/-! ## Accepted references -/

/-- The first part of the name of a reference, if it is taken for a registry. -/
def registryHost? (reference : String) : Option (List Char) :=
  (components (split reference.toList).1).1

/-- The check sees to the characters of a registry. -/
theorem chars_of_registryHost? {reference : String} (h : validate reference = .ok ())
    (hregistry : registryHost? reference = some host) :
    ∀ c ∈ host, IsAlphanumeric c ∨ c ∈ ['.', '-', ':'] := by
  rw [validate, mapError_eq_ok_iff, Reference.check_eq_ok_iff] at h
  have hname : IsName (Text.splitAt '/' (split reference.toList).1) := h.name
  unfold registryHost? components at hregistry
  generalize Text.splitAt '/' (split reference.toList).1 = parts at hname hregistry
  rcases parts with - | ⟨first, - | ⟨second, rest⟩⟩
  · cases hregistry
  · cases hregistry
  · dsimp only at hregistry
    by_cases hfirst : isRegistry first = true
    · rw [if_pos hfirst] at hregistry
      cases hregistry
      exact ((IsName.iff_of_hasRegistry (isRegistry_iff.mp hfirst)).mp hname).1
    · rw [if_neg hfirst] at hregistry
      cases hregistry

/-- The registry of an accepted reference is a host, with an optional port, exactly when the points
of its name are spaced and its first colon has a port behind it. -/
theorem isHost_registry_iff {reference : String} (h : validate reference = .ok ())
    (hregistry : registryHost? reference = some host) : IsHost host ↔ Tidy host :=
  isHost_iff (chars_of_registryHost? h hregistry)

theorem isHost_registry_with_port :
    registryHost? "registry.local:5000/team/service:v0.3.1" = some "registry.local:5000".toList ∧
      IsHost "registry.local:5000".toList := by
  have hvalid : validate "registry.local:5000/team/service:v0.3.1" = .ok () :=
    eq_ok_iff_toBool.mpr (by decide +kernel)
  have hregistry : registryHost? "registry.local:5000/team/service:v0.3.1" =
      some "registry.local:5000".toList := by decide +kernel
  refine ⟨hregistry, (isHost_registry_iff hvalid hregistry).mpr ?_⟩
  have hcut : Text.cutFirst ':' "registry.local:5000".toList =
      some ("registry.local".toList, ['5', '0', '0', '0']) := by decide +kernel
  rw [Tidy, hcut]
  exact ⟨⟨by decide +kernel, by decide +kernel, by decide +kernel, by decide +kernel⟩,
    List.cons_ne_nil _ _, by simp [IsDigit]⟩

/-- A colon without a port is accepted. -/
theorem registry_without_port_not_isHost :
    validate "registry.local:/team/service:1" = .ok () ∧
      registryHost? "registry.local:/team/service:1" = some "registry.local:".toList ∧
      ¬ IsHost "registry.local:".toList := by
  have hvalid : validate "registry.local:/team/service:1" = .ok () :=
    eq_ok_iff_toBool.mpr (by decide +kernel)
  have hregistry : registryHost? "registry.local:/team/service:1" =
      some "registry.local:".toList := by decide +kernel
  have hcut : Text.cutFirst ':' "registry.local:".toList =
      some ("registry.local".toList, []) := by decide +kernel
  refine ⟨hvalid, hregistry, ?_⟩
  rw [isHost_iff (chars_of_registryHost? hvalid hregistry), Tidy, hcut]
  exact fun h => h.2.nonempty rfl

end SealedBuild.ImageTag
