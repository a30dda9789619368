import CompoundFile.Proofs.PropertySet.Agreement

/-!
# What the fallback codepage decides

A property set is decoded with two fallback codepages. Both decodings fail with the same fault, or
both give property sets that differ in narrow texts at most (`Alike`), and in these only where the
section does not settle its codepage (`Settled`).

**Codepage first.** The property that declares the codepage is itself decoded with the fallback. This
does no harm: a declared number is no narrow text (`codepageOf_eq`), so both decodings find the same.

Main result: `fallback_affects_narrow_only`.
-/

namespace CompoundFile.PropertySet

/-- The declared codepage number is one of UTF-16, of UTF-8 or of a codepage. -/
def Settled (declared : Option UInt32) : Prop :=
  ∃ number ∈ declared, number = 1200 ∨ number = 65001 ∨ ∃ c : Codepage, c.id = number.toNat

/-- The texts are equal if the declared codepage settles them. -/
def SameIfSettled (declared : Option UInt32) (text text' : String) : Prop :=
  Settled declared → text = text'

/-- The properties have the same identifier, and their values are equal but for narrow texts. These
are equal if the declared codepage settles them. -/
structure Property.Alike (declared : Option UInt32) (x y : Property) : Prop where
  id_eq : x.id = y.id
  value_like : x.value.Like (SameIfSettled declared) y.value

/-- The sections mean the same and declare the same, and have properties that are alike. -/
structure Section.Alike (s t : Section) : Prop where
  formatId_eq : s.formatId = t.formatId
  codepage_eq : s.codepage = t.codepage
  properties : List.Forall₂ (Property.Alike s.codepage) s.properties t.properties

/-- The property sets have the same header, and sections that are alike. -/
structure Alike (p q : PropertySet) : Prop where
  format_eq : p.format = q.format
  systemVersion_eq : p.systemVersion = q.systemVersion
  clsid_eq : p.clsid = q.clsid
  sections : List.Forall₂ Section.Alike p.sections q.sections

/-- Where the codepage is settled, the fallback is not used. -/
theorem ofCodepage_of_settled {declared : Option UInt32} (h : Settled declared) (f g : Codepage) :
    NarrowText.ofCodepage declared f = NarrowText.ofCodepage declared g := by
  obtain ⟨number, hnumber, h⟩ := h
  obtain rfl := Option.mem_def.1 hnumber
  rcases h with rfl | rfl | ⟨c, hc⟩
  · rfl
  · rfl
  · simp only [NarrowText.ofCodepage, ← hc, Codepage.ofId?_id, Option.getD_some]

/-- A codepage number is declared by a number. -/
theorem codepageOf_eq {R : String → String → Prop} {v w : Value} (h : v.Like R w) :
    Section.codepageOf v = Section.codepageOf w := by
  cases h <;> rfl

section Bodies

variable (b : ByteArray) (f g : Codepage)

theorem declaredCodepage_parallel (slots : List Section.Slot) :
    Parallel Eq (Section.declaredCodepage b slots f) (Section.declaredCodepage b slots g) := by
  unfold Section.declaredCodepage
  split
  · exact .ok rfl
  next slot _ =>
    refine Parallel.map (R := Value.Like fun _ _ => True) ?_ fun _ _ => codepageOf_eq
    exact property_parallel (.refl 0 b) (fun _ => trivial) (Nat.zero_le slot.offset) _

theorem parseBody_alike (formatId : ClassId) (offset : Nat) :
    Parallel Section.Alike (Section.parseBody b formatId offset f)
      (Section.parseBody b formatId offset g) := by
  unfold Section.parseBody
  refine .bind_same fun count _ => .guard ?_
  refine (declaredCodepage_parallel b f g _).bind fun declared _ hdeclared => ?_
  subst hdeclared
  have htext : ∀ s, SameIfSettled declared ((NarrowText.ofCodepage declared f).decode s)
      ((NarrowText.ofCodepage declared g).decode s) :=
    fun s h => congrArg (NarrowText.decode · s) (ofCodepage_of_settled h f g)
  refine Parallel.bind (R := List.Forall₂ (Property.Alike declared)) (.mapM fun slot _ => ?_)
    fun xs ys h => .ok ⟨rfl, rfl, h⟩
  have hvalue := property_parallel (.refl 0 b) htext (Nat.zero_le slot.offset)
  exact (hvalue _).bind fun v w h => .ok ⟨rfl, h⟩

theorem parse_section_alike (formatId : ClassId) (offset : Nat) :
    Parallel Section.Alike (Section.parse b formatId offset f)
      (Section.parse b formatId offset g) := by
  unfold Section.parse
  refine .bind_same fun size _ => ?_
  dsimp only
  split
  · exact .error _
  next body _ => exact parseBody_alike body f g formatId offset

end Bodies

/-- **The fallback codepage decides narrow texts only.** Decoding with two fallbacks fails with the
same fault, or gives the same but for narrow texts in sections that do not settle their codepage. -/
theorem fallback_affects_narrow_only (b : ByteArray) (f g : Codepage) :
    Parallel Alike (PropertySet.parse b f) (PropertySet.parse b g) := by
  unfold PropertySet.parse
  refine .guard (.guard (.guard ?_))
  refine Parallel.bind (R := List.Forall₂ Section.Alike) (.mapM fun i _ => ?_)
    fun ss ts h => .ok ⟨rfl, rfl, rfl, h⟩
  exact .bind_same fun formatId _ => .bind_same fun offset _ =>
    parse_section_alike b f g formatId offset.toNat

end CompoundFile.PropertySet
