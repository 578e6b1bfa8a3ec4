import RecordFamily.Proofs.Method

/-!
# Parameters of emitted conversions

A conversion that takes arguments is emitted as a method whose parameters are called like the fields
that it asks for. Field names are free, so a field may be called like the receiver, or like the class
that the body of the method calls; the names of members do not tell.

* `Method.parameterNames`, `Method.WellScoped`: the parameters of a method, and methods whose
  parameters are distinct and leave the class in sight;
* `FamilyOf.KeepsNames`: families in which no conversion asks for a field that is called so;
* `FamilyOf.ScopesParameters`, **`parameters_scoped`**: the methods of a derived family are well scoped
  in that case and in no other;
* `parameters_clash`: distinct generated names are not enough.
-/

namespace RecordFamily

open List

/-- The names of the parameters of a method, those of every method of its kind first. -/
def Method.parameterNames (m : Method) : List String :=
  (if m.onTarget then ["cls", "other"] else ["self"]) ++ m.parameters.map Prod.fst

/-- **The parameters of the method are legal**: no two of them have one name, and none of them hides the
class that the method calls. -/
structure Method.WellScoped (m : Method) : Prop where
  distinct : m.parameterNames.Nodup
  visible : m.target ∉ m.parameters.map Prod.fst

/-- **No conversion asks for a field that is called like its receiver or its target**: a variant has
such a field only where all variants have it. -/
def FamilyOf.KeepsNames (F : Family) : Prop :=
  ∀ S ∈ F.variants, ∀ T ∈ F.variants, ∀ f ∈ T.fields, f.name = "self" ∨ f.name = T.name →
    f.name ∈ S.fieldNames

instance (F : Family) : Decidable F.KeepsNames :=
  inferInstanceAs (Decidable (∀ S ∈ F.variants, ∀ T ∈ F.variants, ∀ f ∈ T.fields,
    f.name = "self" ∨ f.name = T.name → f.name ∈ S.fieldNames))

/-- **The conversion takes its arguments as the parameters of the method**, which is emitted with its
owner and stands in its class in the text, and which is well scoped unless an argument is called like the
receiver or the target. -/
structure ConversionOf.TakesArguments (F : Family) (s : SourceText) (c : Conversion) (m : Method) :
    Prop where
  method : c.method F = .ok m
  emitted : ∃ M, F.classModule .full = .ok M ∧
    ∃ C ∈ M.records, C.name = c.owner ∧ ClassMember.conversion m ∈ C.body
  written : ∃ b ∈ s.classes, b.name = c.owner ∧ m.lines <:+: b.body
  lines : m.lines =
    (indentOne ++ "def " ++ c.name ++ "(" ++
      ", ".intercalate ("self" :: c.arguments.map fun a => a.name ++ ": " ++ a.type) ++ ") -> " ++
      c.target ++ ":") :: constructorCall c.target "self" m.arguments
  parameterNames : m.parameterNames = "self" :: c.arguments.map FieldOf.name
  wellScoped_iff : m.WellScoped ↔ ∀ a ∈ c.arguments, a.name ≠ "self" ∧ a.name ≠ c.target

/-- **The methods of the family are well scoped exactly where the family keeps names apart.** -/
structure FamilyOf.ScopesParameters (F : Family) : Prop where
  taken : ∃ s, F.WrittenAs .full s ∧
    ∀ c ∈ F.conversions, c.kind ≠ .fromSource → ∃ m, c.TakesArguments F s m
  wellScoped_iff : (∀ c ∈ F.conversions, c.kind ≠ .fromSource → ∀ m, c.method F = .ok m →
    m.WellScoped) ↔ F.KeepsNames

section Method

variable {S T : Variant} {k : ConversionKind} {fallbacks : List (String × String)}

/-- The parameters are called like the arguments, which are distinct. -/
theorem parameters_methodTo_eq (hk : k ≠ .fromSource) : (S.methodTo T k fallbacks).parameters =
    (S.conversion T k).arguments.map fun a => (a.name, a.type) := by
  rw [VariantOf.methodTo, if_neg (by simpa using hk)]

theorem onTarget_methodTo (hk : k ≠ .fromSource) :
    (S.methodTo T k fallbacks).onTarget = false := by
  rw [VariantOf.methodTo]
  simpa using hk

theorem names_methodTo (hk : k ≠ .fromSource) :
    (S.methodTo T k fallbacks).parameters.map Prod.fst =
      (S.conversion T k).arguments.map FieldOf.name := by
  rw [parameters_methodTo_eq hk, List.map_map]
  rfl

theorem parameterNames_methodTo (hk : k ≠ .fromSource) :
    (S.methodTo T k fallbacks).parameterNames =
      "self" :: (S.conversion T k).arguments.map FieldOf.name := by
  rw [Method.parameterNames, names_methodTo hk, onTarget_methodTo hk]
  rfl

/-- The lines of a method that takes arguments. -/
theorem parameterized_methodTo (hk : k ≠ .fromSource) : (S.methodTo T k fallbacks).lines =
    (indentOne ++ "def " ++ (S.conversion T k).name ++ "(" ++
      ", ".intercalate ("self" :: (S.conversion T k).arguments.map fun a => a.name ++ ": " ++ a.type)
      ++ ") -> " ++ T.name ++ ":") ::
        constructorCall T.name "self" (S.methodTo T k fallbacks).arguments := by
  have hparameters : (S.methodTo T k fallbacks).parameters.map (fun p => p.1 ++ ": " ++ p.2) =
      (S.conversion T k).arguments.map fun a => a.name ++ ": " ++ a.type := by
    rw [parameters_methodTo_eq hk, List.map_map]
    rfl
  rw [Method.lines, onTarget_methodTo hk, ← hparameters]
  rfl

theorem mem_arguments_intoTarget {f : Field} :
    f ∈ (S.conversion T .intoTarget).arguments ↔ f ∈ missingFields T S := by
  change f ∈ (missingFields T S).filter (fun _ => true) ↔ _
  rw [List.filter_true]

/-- **A method is well scoped** when no argument is called like the receiver or the target. -/
theorem wellScoped_methodTo (hk : k ≠ .fromSource) (hT : T.fieldNames.Nodup) :
    (S.methodTo T k fallbacks).WellScoped ↔
      ∀ a ∈ (S.conversion T k).arguments, a.name ≠ "self" ∧ a.name ≠ T.name := by
  have hnodup : ((S.conversion T k).arguments.map FieldOf.name).Nodup :=
    ((List.filter_sublist.trans List.filter_sublist).map FieldOf.name).nodup hT
  have hself : "self" ∉ (S.conversion T k).arguments.map FieldOf.name ↔
      ∀ a ∈ (S.conversion T k).arguments, a.name ≠ "self" := by simp
  have htarget : T.name ∉ (S.conversion T k).arguments.map FieldOf.name ↔
      ∀ a ∈ (S.conversion T k).arguments, a.name ≠ T.name := by simp
  have hdistinct : (S.methodTo T k fallbacks).parameterNames.Nodup ↔
      ∀ a ∈ (S.conversion T k).arguments, a.name ≠ "self" := by
    rw [parameterNames_methodTo hk, List.nodup_cons, hself]
    exact and_iff_left hnodup
  have hvisible : (S.methodTo T k fallbacks).target ∉
      (S.methodTo T k fallbacks).parameters.map Prod.fst ↔
        ∀ a ∈ (S.conversion T k).arguments, a.name ≠ T.name := by
    rw [names_methodTo hk]
    exact htarget
  rw [forall₂_and, ← hdistinct, ← hvisible]
  exact ⟨fun h => ⟨h.distinct, h.visible⟩, fun h => ⟨h.1, h.2⟩⟩

end Method

namespace Derives

variable {r : Record} {o : Options} {R : Registry String} {ss : List (Share String)} {F : Family}

theorem takesArguments (h : Derives r o R ss F) {M : ClassModule}
    (hM : F.classModule .full = .ok M) {S T : Variant} (hS : S ∈ F.variants) (hT : T ∈ F.variants)
    {k : ConversionKind} (hc : S.conversion T k ∈ F.conversions)
    (hserves : k.serves (missingFields T S) = true) (hk : k ≠ .fromSource) :
    (S.conversion T k).TakesArguments F M.layout (S.methodTo T k F.fallbacks) := by
  have hemitted := h.emittedAs hM hS hT hc hserves
  refine ⟨hemitted.method, hemitted.emitted, ?_, parameterized_methodTo hk,
    parameterNames_methodTo hk, wellScoped_methodTo hk (h.fieldNames_nodup hT)⟩
  rw [hemitted.lines]
  exact hemitted.written

theorem keepsNames_iff (h : Derives r o R ss F) :
    (∀ c ∈ F.conversions, c.kind ≠ .fromSource → ∀ m, c.method F = .ok m → m.WellScoped) ↔
      F.KeepsNames := by
  constructor
  · intro hall S hS T hT f hf hname
    by_contra hmissing
    have hne : S.name ≠ T.name := fun he =>
      hmissing (h.variant_eq hS hT he ▸ List.mem_map_of_mem hf)
    have hinto : ConversionKind.intoTarget ≠ .fromSource := by decide
    have hserves : ConversionKind.serves .intoTarget (missingFields T S) = true :=
      (serves_parameterized hinto).mpr ⟨f, hf, hmissing⟩
    have hc : S.conversion T .intoTarget ∈ F.conversions :=
      h.mem_conversions.mpr ⟨S, hS, T, hT, hne, .intoTarget, hserves, rfl⟩
    have hscoped := hall _ hc hinto _ (h.method_eq hT .intoTarget)
    have harguments := (wellScoped_methodTo hinto (h.fieldNames_nodup hT)).mp hscoped
    obtain ⟨hself, htarget⟩ :=
      harguments f (mem_arguments_intoTarget.mpr (mem_missingFields.mpr ⟨hf, hmissing⟩))
    exact hname.elim hself htarget
  · intro hkeeps c hc hkind m hm
    obtain ⟨S, hS, T, hT, _, k, _, rfl⟩ := h.mem_conversions.mp hc
    rw [h.method_eq hT k] at hm
    cases hm
    refine (wellScoped_methodTo hkind (h.fieldNames_nodup hT)).mpr fun a ha => ?_
    obtain ⟨haT, haS⟩ := mem_missingFields.mp (List.mem_of_mem_filter ha)
    exact ⟨fun hself => haS (hkeeps S hS T hT a haT (.inl hself)),
      fun htarget => haS (hkeeps S hS T hT a haT (.inr htarget))⟩

end Derives

/-- **The methods of a derived family are well scoped exactly where it keeps names apart.** -/
theorem parameters_scoped {r : Record} {o : Options} {F : Family}
    (h : (r.derive o).result = .ok F) : F.ScopesParameters := by
  obtain ⟨R, ss, h⟩ := derive_ok.mp h
  obtain ⟨M, hM⟩ := h.exists_module .full
  refine ⟨⟨M.layout, writtenAs_layout hM, fun c hc hkind => ?_⟩, h.keepsNames_iff⟩
  obtain ⟨S, hS, T, hT, _, k, hserves, rfl⟩ := h.mem_conversions.mp hc
  exact ⟨_, h.takesArguments hM hS hT hc hserves hkind⟩

/-- The sample page keeps names apart, and all its methods are well scoped. -/
theorem parameters_scoped_page : ∃ F, (samplePage.derive { strictNames := true }).result = .ok F ∧
    F.KeepsNames ∧ F.ScopesParameters ∧
      ∃ c ∈ F.conversions, c.kind = .intoTarget ∧ ∃ m, c.method F = .ok m ∧ m.WellScoped := by
  have hyields : (samplePage.derive { strictNames := true }).yields (fun F =>
      decide F.KeepsNames && F.conversions.any fun c => c.kind = .intoTarget) = true := by
    decide +kernel
  obtain ⟨F, hF, htest⟩ := Outcome.yields_iff.mp hyields
  obtain ⟨hkeeps, hany⟩ := Bool.and_eq_true_iff.mp htest
  obtain ⟨c, hc, hkind⟩ := List.any_eq_true.mp hany
  have hkind : c.kind = .intoTarget := of_decide_eq_true hkind
  have hne : c.kind ≠ .fromSource := by rw [hkind]; decide
  have hscopes := parameters_scoped hF
  obtain ⟨_, _, htaken⟩ := hscopes.taken
  obtain ⟨m, hm⟩ := htaken c hc hne
  have hkeeps : F.KeepsNames := of_decide_eq_true hkeeps
  exact ⟨F, hF, hkeeps, hscopes, c, hc, hkind, m, hm.method,
    hscopes.wellScoped_iff.mpr hkeeps c hc hne m hm.method⟩

/-- A page with fields that are called like the receiver of a method and like the page. -/
def maskedPage : Record where
  name := "Page"
  fields := [
    sampleField "title" "str" [],
    sampleField "self" "str" ["not_in(\"Stub\")"],
    sampleField "Page" "str" ["not_in(\"Stub\")"]]
  annotations := []
  variants := ["Stub"]
  docstring := none
  imports := []

/-- **Distinct generated names are not enough**: the method that makes a page of its stub has two
parameters of one name, and one that hides the page. -/
theorem parameters_clash : ∃ F, (maskedPage.derive { strictNames := true }).result = .ok F ∧
    ∃ c ∈ F.conversions, c.kind = .intoTarget ∧ ∃ m, c.method F = .ok m ∧
      ¬ m.parameterNames.Nodup ∧ m.target ∈ m.parameters.map Prod.fst ∧
        m.lines.head? = some "    def into_page(self, self: str, Page: str) -> Page:" := by
  have hyields : (maskedPage.derive { strictNames := true }).yields (fun F =>
      F.conversions.any fun c => decide (c.kind = .intoTarget) && (match c.method F with
        | .ok m => decide (¬ m.parameterNames.Nodup ∧ m.target ∈ m.parameters.map Prod.fst ∧
            m.lines.head? = some "    def into_page(self, self: str, Page: str) -> Page:")
        | .error _ => false)) = true := by decide +kernel
  obtain ⟨F, hF, hany⟩ := Outcome.yields_iff.mp hyields
  obtain ⟨c, hc, htest⟩ := List.any_eq_true.mp hany
  obtain ⟨hkind, htest⟩ := Bool.and_eq_true_iff.mp htest
  refine ⟨F, hF, c, hc, of_decide_eq_true hkind, ?_⟩
  split at htest
  · next m hm => exact ⟨m, hm, of_decide_eq_true htest⟩
  · cases htest

end RecordFamily
