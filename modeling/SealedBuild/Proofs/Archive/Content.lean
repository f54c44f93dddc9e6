import SealedBuild.Archive.Reader
import SealedBuild.Proofs.Outcome

/-!
# Whole contents

A content is cut off where an archive ends, and this is found out only when the reading goes on
behind it. So an entry that was read without a fault behind it is whole: as many bytes as its
header declares, or the attributes in front of it, stand behind the header.
-/

namespace SealedBuild.Archive

/-- What is left of an archive leads to a member that is an entry, over members that describe it.
What they have said is added to what was said before. -/
inductive LeadsTo (whole : Nat) : Description → List UInt8 → Description → Member → Prop where
  | here {d : Description} {bytes : List UInt8} {m : Member}
      (hmember : member? whole d.attributes bytes = .ok (some m))
      (hentry : d.add? m = .ok none) : LeadsTo whole d bytes d m
  | past {d next described : Description} {bytes rest : List UInt8} {m entry : Member}
      (hmember : member? whole d.attributes bytes = .ok (some m))
      (hadd : d.add? m = .ok (some next)) (hbehind : behind m.span m.bytes = .ok rest)
      (hleads : LeadsTo whole next rest described entry) : LeadsTo whole d bytes described entry

/-- The size that a header declares for its content under a description. -/
def declaredSize (d : Description) (h : Header) : Except Fault Nat :=
  h.size.map fun own => (d.attributes.bind statedSize?).getD own

/-- The archive holds an entry with its whole content, which has a size. -/
structure Holds (archive : List UInt8) (entry : Entry) (size : Nat) : Prop where
  /-- The content has as many bytes as were declared. -/
  length : entry.content.length = size
  /-- The content stands behind its header, and the declaration holds where it stands. -/
  stands : ∃ (before after : List UInt8) (described : Description),
    archive = before ++ entry.header ++ entry.content ++ after ∧
      entry.header.length = blockSize ∧ declaredSize described entry.header = .ok size ∧
      LeadsTo archive.length {} archive described ⟨entry.header, size, entry.content ++ after⟩

/-! ## Members -/

variable {whole : Nat} {attributes : Option (List UInt8)} {bytes rest : List UInt8}
  {d described : Description} {m : Member}

theorem behind_eq_ok_iff {span : Nat} :
    behind span bytes = .ok rest ↔ span ≤ bytes.length ∧ bytes.drop span = rest := by
  unfold behind
  split
  · next hshort => exact ⟨nofun, fun ⟨hlong, _⟩ => absurd hshort (Nat.not_lt_of_le hlong)⟩
  · next hlong => simp [Nat.le_of_not_lt hlong]

theorem size_le_span (m : Member) : m.size ≤ m.span := by
  simp only [Member.span, paddedSize, blockSize]
  omega

/-- A member is its header and all bytes behind it; its size is the declared one, unless it is one
of those that describe. -/
theorem member?_eq_some (h : member? whole attributes bytes = .ok (some m)) :
    bytes = m.header ++ m.bytes ∧ m.header.length = blockSize ∧
      ∃ own, m.header.size = .ok own ∧
        m.size =
          if m.header.kind.describes then own else (attributes.bind statedSize?).getD own := by
  unfold member? at h
  split at h
  · cases h
  split at h
  · cases h
  · next hlong =>
    dsimp only at h
    split at h
    · cases h
    obtain ⟨stated, -, h⟩ := bind_eq_ok_iff.mp h
    split at h
    · exact absurd (check_bind_eq_ok_iff.mp h).1 throw_ne_ok
    obtain ⟨own, hown, h⟩ := bind_eq_ok_iff.mp h
    generalize hsize : (if (Header.kind (bytes.take blockSize)).describes = true then own
      else (attributes.bind statedSize?).getD own) = size at h
    split at h
    · exact absurd (check_bind_eq_ok_iff.mp h).1 throw_ne_ok
    obtain rfl := Option.some.inj (Except.ok.inj h)
    have hlength : (bytes.take blockSize).length = blockSize := by
      rw [List.length_take, Nat.min_eq_left (Nat.le_of_not_lt hlong)]
    exact ⟨(List.take_append_drop blockSize bytes).symm, hlength, own, hown, hsize.symm⟩

/-- What is led to stands at the end of what is left. -/
theorem LeadsTo.stands (h : LeadsTo whole d bytes described m) :
    (∃ before, bytes = before ++ m.header ++ m.bytes) ∧ m.header.length = blockSize ∧
      (m.header.kind.describes = false → declaredSize described m.header = .ok m.size) := by
  induction h with
  | here hmember _ =>
      obtain ⟨hbytes, hlength, own, hown, hsize⟩ := member?_eq_some hmember
      refine ⟨⟨[], hbytes⟩, hlength, fun hentry => ?_⟩
      rw [declaredSize, hown, hsize, if_neg (by rw [hentry]; decide)]
      rfl
  | @past _ _ _ _ _ m _ hmember _ hbehind _ ih =>
      obtain ⟨hbytes, -⟩ := member?_eq_some hmember
      obtain ⟨-, hrest⟩ := behind_eq_ok_iff.mp hbehind
      obtain ⟨⟨before, hbefore⟩, hlater⟩ := ih
      refine ⟨⟨m.header ++ m.bytes.take m.span ++ before, ?_⟩, hlater⟩
      calc _ = m.header ++ (m.bytes.take m.span ++ m.bytes.drop m.span) := by
            rw [hbytes, List.take_append_drop]
        _ = _ := by rw [hrest, hbefore]; simp only [List.append_assoc]

/-- A content behind which the reading went on is there in its declared size. -/
theorem exists_leadsTo {fuel : Nat} {entry : Entry} {rest : List Entry} {fault : Option Fault}
    (h : entriesFrom whole fuel d bytes = (entry :: rest, fault))
    (hkind : entry.header.kind ≠ .sparse) :
    ∃ described m, LeadsTo whole d bytes described m ∧ entry.header = m.header ∧
      entry.content = m.bytes.take m.size ∧ (fault = none → m.span ≤ m.bytes.length) := by
  induction fuel generalizing d bytes with
  | zero => cases h
  | succ fuel ih =>
      rw [entriesFrom] at h
      split at h
      · cases h
      · cases h
      · next m hmember =>
        split at h
        · cases h
        · next next hadd =>
          split at h
          · cases h
          · next rest hbehind =>
            obtain ⟨described, entered, hleads, hentry⟩ := ih h
            exact ⟨described, entered, .past hmember hadd hbehind hleads, hentry⟩
        · next hadd =>
          dsimp only at h
          split at h
          · cases h
          · next content hcontent =>
            split at h
            · next hcut =>
              obtain ⟨hentries, rfl⟩ := Prod.mk.inj h
              obtain ⟨rfl, -⟩ := List.cons.inj hentries
              rw [if_neg hkind] at hcontent
              obtain rfl := Except.ok.inj hcontent
              exact ⟨d, m, .here hmember hadd, rfl, rfl, nofun⟩
            · next rest' hbehind =>
              obtain ⟨hentries, -⟩ := Prod.mk.inj h
              obtain ⟨rfl, -⟩ := List.cons.inj hentries
              rw [if_neg hkind] at hcontent
              obtain rfl := Except.ok.inj hcontent
              exact ⟨d, m, .here hmember hadd, rfl, rfl, fun _ => (behind_eq_ok_iff.mp hbehind).1⟩

/-- An entry that the reading got past is whole. -/
theorem holds_of_entries {archive : List UInt8} {entry : Entry} {rest : List Entry}
    (h : entries archive = (entry :: rest, none)) (hkind : entry.header.kind ≠ .sparse)
    (hentry : entry.header.kind.describes = false) :
    Holds archive entry entry.content.length := by
  obtain ⟨described, m, hleads, hheader, hcontent, hspan⟩ := exists_leadsTo h hkind
  obtain ⟨⟨before, hbytes⟩, hlength, hdeclared⟩ := hleads.stands
  have hsize : entry.content.length = m.size := by
    rw [hcontent, List.length_take, Nat.min_eq_left (Nat.le_trans (size_le_span m) (hspan rfl))]
  have hsplit : m.bytes = entry.content ++ m.bytes.drop m.size := by
    rw [hcontent, List.take_append_drop]
  have hm : m = ⟨entry.header, entry.content.length, entry.content ++ m.bytes.drop m.size⟩ := by
    rw [← hsplit, hsize, hheader]
  refine ⟨rfl, before, m.bytes.drop m.size, described, ?_, hheader ▸ hlength, ?_, ?_⟩
  · rw [List.append_assoc, ← hsplit, hheader, hbytes]
  · rw [hsize, hheader, hdeclared (hheader ▸ hentry)]
  · rw [← hm]
    exact hleads

end SealedBuild.Archive
