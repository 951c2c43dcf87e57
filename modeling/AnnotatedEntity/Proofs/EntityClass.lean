/-
The class that a table becomes, against the namespace and the model it is made of. Backslashes at
the ends of the namespace make no difference, and of those in front of the class one was put there
(`takeWhile_className`). A model without backslashes is what stands behind the last one, so that the
class can be taken apart again (`classParts_className`). So the entries of manifests get one class
only if their models are the same and their namespaces are but for the ends (`className_table`).
-/
import AnnotatedEntity.Manifest
import AnnotatedEntity.Proofs.Text.Cut

namespace AnnotatedEntity

/-! ## Namespaces between backslashes -/

def backslashes (n : Nat) : String := String.ofList (List.replicate n '\\')

theorem bareNamespace_backslashes (front back : Nat) (space : String) :
    bareNamespace (backslashes front ++ space ++ backslashes back).toList =
      bareNamespace space.toList := by
  have hslash : ∀ n, ∀ c ∈ (backslashes n).toList, (c == '\\') = true := fun n c hc => by
    rw [backslashes, String.toList_ofList] at hc
    rw [List.eq_of_mem_replicate hc, beq_self_eq_true]
  rw [String.toList_append, String.toList_append, List.append_assoc]
  exact Text.stripBoth_append (hslash front) (hslash back) space.toList

/-- A bare namespace does not begin with a backslash. -/
theorem head_bareNamespace (space : List Char) :
    ∀ c ∈ (bareNamespace space).head?, (c == '\\') = false :=
  (Text.stripBoth_eq_self_iff.mp (Text.stripBoth_stripBoth _ space)).1

/-! ## The class of a table -/

/-- The namespace and the name of a qualified class: what stands before its last backslash, without
the backslash in front, and what stands behind it. -/
def classParts (className : String) : String × String :=
  let (front, back) := Text.cutLast '\\' className.toList
  (String.ofList (front.drop 1), String.ofList back)

namespace Table

variable {t u : Table}

/-- The namespace of a class without the backslashes at its ends. -/
def bareSpace (t : Table) : List Char := bareNamespace t.classNamespace.toList

/-- The namespace as a class begins with it: behind a backslash, unless it is empty. -/
def classFront (t : Table) : List Char :=
  match t.bareSpace with
  | [] => []
  | space => '\\' :: space

theorem drop_classFront (t : Table) : t.classFront.drop 1 = t.bareSpace := by
  cases h : t.bareSpace <;> simp [classFront, h]

theorem toList_className (t : Table) :
    t.className.toList = t.classFront ++ '\\' :: t.model.toList := by
  rw [className, ← bareSpace]
  cases h : t.bareSpace <;> simp [classFront, h]

/-- The backslashes in front of a class are one and, in the empty namespace, those in front of the
model. -/
theorem takeWhile_className (t : Table) : t.className.toList.takeWhile (· == '\\') =
    '\\' :: if t.bareSpace = [] then t.model.toList.takeWhile (· == '\\') else [] := by
  rw [toList_className]
  cases h : t.bareSpace with
  | nil => simp [classFront, h]
  | cons c space =>
    have hc : (c == '\\') = false :=
      head_bareNamespace t.classNamespace.toList c (by rw [← bareSpace, h, List.head?_cons]; rfl)
    simp [classFront, h, hc]

theorem className_congr (hmodel : t.model = u.model)
    (hspace : t.bareSpace = u.bareSpace) : t.className = u.className := by
  rw [className, className, ← bareSpace, ← bareSpace, hmodel, hspace]

theorem classParts_className (h : '\\' ∉ t.model.toList) :
    classParts t.className = (String.ofList t.bareSpace, t.model) := by
  rw [classParts, toList_className, Text.cutLast_append h]
  simp only [drop_classFront, String.ofList_toList]

theorem className_eq_iff (ht : '\\' ∉ t.model.toList) (hu : '\\' ∉ u.model.toList) :
    t.className = u.className ↔ t.model = u.model ∧ t.bareSpace = u.bareSpace := by
  refine ⟨fun h => ?_, fun ⟨hmodel, hspace⟩ => className_congr hmodel hspace⟩
  have hparts := congrArg classParts h
  rw [classParts_className ht, classParts_className hu, Prod.mk.injEq, String.ofList_inj] at hparts
  exact hparts.symm

/-- The class does not tell where the namespace ends if the model goes on with it. -/
example : ({ (default : Table) with classNamespace := "App", model := "Entity\\User" }).className =
    ({ (default : Table) with classNamespace := "App\\Entity", model := "User" }).className := by
  decide

end Table

/-! ## The classes of a manifest -/

namespace Manifest

/-- The namespace of all tables: the manifest's own one, which may be empty, or else that of the
options. -/
def spaceUnder (o : Options) (m : Manifest) : String :=
  match m.entityNamespace with
  | some space => space
  | none => o.entityNamespace

theorem tablesUnder_eq (o : Options) (m : Manifest) :
    m.tablesUnder o = m.tables.map (·.table o (m.spaceUnder o)) := by
  rw [tablesUnder, spaceUnder]
  cases m.entityNamespace <;> rfl

/-- **The class of an entry's table.** One backslash is put in front of it, and others stand there
only if the model begins with them and the namespace is empty. Backslashes at either end of the
namespace, be it the manifest's or that of the options, make no difference. If the model has no
backslash, it is what stands behind the last one of the class, and the namespace without the
backslashes at its ends is what stands before that. So two such entries have one class only if they
agree in both. -/
theorem className_table (o : Options) (m : Manifest) (e : TableEntry) :
    let t := e.table o (m.spaceUnder o)
    let bare := bareNamespace (m.spaceUnder o).toList
    m.tablesUnder o = m.tables.map (·.table o (m.spaceUnder o)) ∧
    t.className.toList.takeWhile (· == '\\') =
      '\\' :: (if bare = [] then t.model.toList.takeWhile (· == '\\') else []) ∧
    (∀ (o' : Options) (m' : Manifest) (front back : Nat),
      m'.spaceUnder o' = backslashes front ++ m.spaceUnder o ++ backslashes back →
        (e.table o' (m'.spaceUnder o')).className = t.className) ∧
    ('\\' ∉ t.model.toList → classParts t.className = (String.ofList bare, t.model)) ∧
    ∀ (o' : Options) (m' : Manifest) (e' : TableEntry),
      let u := e'.table o' (m'.spaceUnder o')
      '\\' ∉ t.model.toList → '\\' ∉ u.model.toList →
        (t.className = u.className ↔
          t.model = u.model ∧ bare = bareNamespace (m'.spaceUnder o').toList) := by
  intro t bare
  refine ⟨tablesUnder_eq o m, t.takeWhile_className, fun o' m' front back hspace => ?_,
    fun h => Table.classParts_className h, fun o' m' e' ht hu => Table.className_eq_iff ht hu⟩
  have hbare : (e.table o' (m'.spaceUnder o')).bareSpace = t.bareSpace := by
    show bareNamespace (m'.spaceUnder o').toList = bareNamespace (m.spaceUnder o).toList
    rw [hspace, bareNamespace_backslashes]
  exact Table.className_congr rfl hbare

theorem className_table_shop :
    let e : TableEntry := { name := "user_accounts" }
    let e' : TableEntry := { name := "user_accounts", model := some "Account" }
    let m : Manifest := { entityNamespace := some "Shop\\Model" }
    let o : Options := { entityNamespace := "\\\\Shop\\Model\\" }
    let t := e.table {} (m.spaceUnder {})
    let u := e'.table o (({} : Manifest).spaceUnder o)
    (({} : Manifest).spaceUnder o = backslashes 2 ++ m.spaceUnder {} ++ backslashes 1 ∧
      '\\' ∉ t.model.toList ∧ '\\' ∉ u.model.toList) ∧
    (e.table o (({} : Manifest).spaceUnder o)).className = t.className ∧
      classParts t.className = ("Shop\\Model", "UserAccounts") ∧ t.className ≠ u.className := by
  intro e e' m o t u
  obtain ⟨-, -, haround, hparts, hclasses⟩ := className_table {} m e
  have hspace : ({} : Manifest).spaceUnder o =
      backslashes 2 ++ m.spaceUnder {} ++ backslashes 1 := by decide
  have ht : '\\' ∉ t.model.toList := by decide +kernel
  have hu : '\\' ∉ u.model.toList := by decide
  refine ⟨⟨hspace, ht, hu⟩, haround o {} 2 1 hspace, ?_, fun h => ?_⟩
  · rw [hparts ht]
    decide +kernel
  · exact absurd ((hclasses o {} e' ht hu).mp h).1 (by decide +kernel)

end Manifest

end AnnotatedEntity
