import ViewModel.Proofs.Accessor.Soundness
import ViewModel.Proofs.Target.Csharp
import ViewModel.Proofs.Target.Python

/-!
The accessors that are printed for C# and for Python compute what the evaluator computes and never
come upon a null.
-/

namespace ViewModel

/-- Every expression is settled where all constants are exact and no operands are apart. -/
theorem Expr.settled_of_always (v : Value) (e : Expr) :
    e.Settled (fun _ => True) (fun _ _ _ _ => False) v := by
  intro s _
  cases s with
  | binary => exact fun _ _ _ _ _ h => h
  | _ => trivial

namespace Manifest

/-- What is printed for a computed property, for C# and for Python, has one reading; that runs
without an error, on every instance, to the value of the property. C# sees the members of the
instance under its own names, which have to keep them apart. -/
theorem printed_agree {all : List Source.Declaration} {m m' : Manifest}
    (hm : Resolve.manifest all = .ok m) (hcompile : m.compile = .ok m') {d : ClassDecl}
    {p : PropertyDecl} (hd : d ∈ m'.classes) (hp : p ∈ d.computedProperties)
    (hfinite : ∀ s ∈ p.expression.literals, s.isFinite = true) {self : Value}
    (hself : HasType m' self (.reference d.name)) (hnames : self.KeepsApart ClassFile.pascal) :
    ∃ value, p.expression.evaluate self = .ok value ∧
      csharpReading.Yields Csharp.machine (self.renamed ClassFile.pascal) p.expression
        (value.renamed ClassFile.pascal) ∧
      pythonReading.Yields Python.machine self p.expression value := by
  obtain ⟨a, t, -, helaborates, -⟩ := compiled_means (Resolve.manifest_fresh hm) hcompile hd hp
  have htyped := helaborates.wellTyped
  have hsettled := Expr.settled_of_always self p.expression
  obtain ⟨x, _, hx, hcsharp, rfl⟩ := (Csharp.simulates hself hnames).run htyped hself hsettled
  obtain ⟨x', _, hx', hpython, rfl⟩ := (Python.simulates hself).run htyped hself hsettled
  obtain rfl := Except.ok.inj (hx.symm.trans hx')
  exact ⟨x, hx, Reading.yields csharp_spells htyped.isComplete hfinite hcsharp,
    Reading.yields python_spells htyped.isComplete hfinite hpython⟩

/-- An item without a tag, of which the label is read through a null. -/
theorem printed_agree_untagged :
    ∃ value, Sample.sameExpr.evaluate (Sample.anItem .null (.text "a")) = .ok value ∧
      csharpReading.Yields Csharp.machine
        ((Sample.anItem .null (.text "a")).renamed ClassFile.pascal) Sample.sameExpr
        (value.renamed ClassFile.pascal) ∧
      pythonReading.Yields Python.machine (Sample.anItem .null (.text "a")) Sample.sameExpr
        value :=
  printed_agree Sample.built_eq Sample.compiled_eq
    (List.mem_cons_of_mem _ (List.mem_singleton_self _)) (List.mem_singleton_self _)
    (fun s hs => by cases hs)
    (Sample.anItem_hasType (.null _) (.present (.text "a"))) (by decide +kernel)

end Manifest

end ViewModel
