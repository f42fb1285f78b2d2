import SoapClasses.Proofs.OperationMethods
import SoapClasses.Proofs.Outcomes

/-!
# Exposed operations

A client class is meant to have its constructor and one method for each operation of the service. The
names of methods are not compared before they are given, and a class keeps the last method of a name.
So the class is as meant exactly when no operation takes the name of the constructor and no two
different operations take the same name.
-/

namespace SoapClasses

/-- The class has the constructor of a client, and different operations are called by different
methods, each by at least one. -/
structure ClientDescription.ExposedBy (client : ClientDescription) (php : PhpClass) : Prop where
  keepsConstructor : constructorMethod ∈ php.methods.toList
  called : ∀ operation ∈ client.operations, ∃ method ∈ php.methods.toList, method.Calls operation
  apart : ∀ operation ∈ client.operations, ∀ other ∈ client.operations, operation ≠ other →
    ∀ method ∈ php.methods.toList, method.Calls operation → ¬ method.Calls other

/-- Different operations have different method names, none of them that of the constructor. -/
structure ClientDescription.NamesApart (client : ClientDescription) : Prop where
  constructorFree : ∀ operation ∈ client.operations, camelCase operation.name ≠ constructorName
  injective : ∀ operation ∈ client.operations, ∀ other ∈ client.operations,
    camelCase operation.name = camelCase other.name → operation = other

namespace ClientDescription

variable {client : ClientDescription} {php : PhpClass}

section

variable {methodOf : Operation → Method}

theorem eq_name_of_calls
    (himplements : ∀ operation ∈ client.operations, (methodOf operation).Implements operation)
    {operation other : Operation} {method : Method} (hmem : operation ∈ client.operations)
    (hother : other ∈ client.operations) (hcalls : method.Calls operation)
    (hcalls' : method.Calls other) : operation.name = other.name := by
  have hquote : ∀ operation ∈ client.operations, '\'' ∉ operation.name.toList := by
    intro operation hmem
    exact not_mem_of_methodName (himplements operation hmem).named (by decide) (by decide)
      (by decide) (by decide)
  exact Method.name_eq_of_calls hcalls hcalls' (hquote operation hmem) (hquote other hother)

theorem exposedBy_of_namesApart
    (himplements : ∀ operation ∈ client.operations, (methodOf operation).Implements operation)
    (hmethods : php.methods = MemberTable.empty.putAll
      (constructorMethod :: client.operations.map methodOf))
    (h : client.NamesApart) : client.ExposedBy php := by
  have hkept : ∀ method ∈ constructorMethod :: client.operations.map methodOf,
      (∀ other ∈ constructorMethod :: client.operations.map methodOf,
        other.name = method.name → other = method) → method ∈ php.methods.toList := by
    intro method hmem halone
    rw [hmethods]
    obtain ⟨other, hother, hname⟩ := MemberTable.exists_mem_putAll .empty _ hmem
    rcases MemberTable.mem_putAll _ _ hother with hput | ⟨hnone, _⟩
    · rw [← halone other hput hname]
      exact hother
    · cases hnone
  constructor
  · apply hkept constructorMethod List.mem_cons_self
    intro other hother hname
    rcases List.mem_cons.mp hother with heq | hother
    · exact heq
    · obtain ⟨operation, hmem, rfl⟩ := List.mem_map.mp hother
      rw [(himplements operation hmem).name_eq] at hname
      exact absurd hname (h.constructorFree operation hmem)
  · intro operation hmem
    refine ⟨methodOf operation, ?_, (himplements operation hmem).calls⟩
    apply hkept _ (List.mem_cons_of_mem _ (List.mem_map_of_mem hmem))
    intro other hother hname
    rw [(himplements operation hmem).name_eq] at hname
    rcases List.mem_cons.mp hother with rfl | hother
    · exact absurd hname.symm (h.constructorFree operation hmem)
    · obtain ⟨second, hsecond, rfl⟩ := List.mem_map.mp hother
      rw [(himplements second hsecond).name_eq] at hname
      rw [h.injective second hsecond operation hmem hname]
  · intro operation hmem other hother hne method _ hcalls hcalls'
    have hname := eq_name_of_calls himplements hmem hother hcalls hcalls'
    exact hne (h.injective operation hmem other hother (by rw [hname]))

theorem namesApart_of_exposedBy
    (himplements : ∀ operation ∈ client.operations, (methodOf operation).Implements operation)
    (hmethods : php.methods = MemberTable.empty.putAll
      (constructorMethod :: client.operations.map methodOf))
    (h : client.ExposedBy php) : client.NamesApart := by
  constructor
  · intro operation hmem hname
    have hconstructor := h.keepsConstructor
    rw [hmethods] at hconstructor
    rcases MemberTable.mem_putAll (MemberTable.empty.put constructorMethod) _ hconstructor with
      hput | ⟨_, hfree⟩
    · obtain ⟨other, hother, heq⟩ := List.mem_map.mp hput
      have hcalls := (himplements other hother).calls
      rw [heq] at hcalls
      exact Method.not_calls_constructorMethod other hcalls
    · apply hfree
      refine List.mem_map.mpr ⟨methodOf operation, List.mem_map_of_mem hmem, ?_⟩
      exact (himplements operation hmem).name_eq.trans hname
  · have hnamed : ∀ operation ∈ client.operations, ∀ method ∈ php.methods.toList,
        method.Calls operation → method.name = camelCase operation.name := by
      intro operation hmem method hmethod hcalls
      rw [hmethods] at hmethod
      rcases MemberTable.mem_putAll _ _ hmethod with hput | ⟨hnone, _⟩
      · rcases List.mem_cons.mp hput with rfl | hput
        · exact absurd hcalls (Method.not_calls_constructorMethod operation)
        · obtain ⟨other, hother, rfl⟩ := List.mem_map.mp hput
          rw [(himplements other hother).name_eq,
            eq_name_of_calls himplements hother hmem (himplements other hother).calls hcalls]
      · cases hnone
    intro operation hmem other hother hname
    obtain ⟨method, hmethod, hcalls⟩ := h.called operation hmem
    obtain ⟨second, hsecond, hcalls'⟩ := h.called other hother
    have hsame : method = second := by
      apply MemberTable.eq_of_nameOf_eq php.methods hmethod hsecond
      exact (hnamed operation hmem method hmethod hcalls).trans
        (hname.trans (hnamed other hother second hsecond hcalls').symm)
    by_contra hne
    exact h.apart operation hmem other hother hne method hmethod hcalls (hsame ▸ hcalls')

end

/-- The class for a client exposes all operations and keeps its constructor exactly when the names of
its methods do not fall together. -/
theorem exposedBy_iff_namesApart (h : generateClient client = .ok php) :
    client.ExposedBy php ↔ client.NamesApart := by
  obtain ⟨methodOf, himplements, hmethods⟩ := methods_of_generateClient h
  exact ⟨namesApart_of_exposedBy himplements hmethods, exposedBy_of_namesApart himplements hmethods⟩

/-- A client with the operations of these names, all without arguments. -/
def ofNames (names : List String) : ClientDescription where
  name := "Shop"
  ns := "App"
  operations := names.map (fun name => ⟨name, [], ⟨"string", false⟩, none⟩)

theorem exposedBy_two_operations :
    ∃ php, generateClient (ofNames ["getUser", "get-order"]) = .ok php ∧
      (ofNames ["getUser", "get-order"]).ExposedBy php := by
  obtain ⟨php, hphp⟩ : ∃ php, generateClient (ofNames ["getUser", "get-order"]) = .ok php := by
    apply exists_eq_ok_of_isOk
    decide +kernel
  refine ⟨php, hphp, (exposedBy_iff_namesApart hphp).mpr ⟨?_, ?_⟩⟩
  · decide +kernel
  · decide +kernel

/-- Two operations whose names differ in a dash only are not both called by methods of the class. -/
theorem not_exposedBy_one_name :
    ∃ php, generateClient (ofNames ["getUser", "get-user"]) = .ok php ∧
      ¬ (ofNames ["getUser", "get-user"]).ExposedBy php := by
  obtain ⟨php, hphp⟩ : ∃ php, generateClient (ofNames ["getUser", "get-user"]) = .ok php := by
    apply exists_eq_ok_of_isOk
    decide +kernel
  refine ⟨php, hphp, ?_⟩
  intro h
  obtain ⟨methodOf, himplements, hmethods⟩ := methods_of_generateClient hphp
  have hnames := namesApart_of_exposedBy himplements hmethods h
  have hsame := hnames.injective ⟨"getUser", [], ⟨"string", false⟩, none⟩ (by decide)
    ⟨"get-user", [], ⟨"string", false⟩, none⟩ (by decide) (by decide +kernel)
  exact absurd hsame (by decide)

end ClientDescription

end SoapClasses
