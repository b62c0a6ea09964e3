import Kubauth.Controllers.OidcClient
import Kubauth.Separator

/-!
# Default client ids

A client without an id of its own is known by its name in the privileged
namespace, and by its namespace, a hyphen and its name elsewhere.  Hyphens are
common in both parts, so that the same id may be read in several ways.
-/

namespace Kubauth.Controllers

namespace ResourceKey

/-- Lower-case letters and digits. -/
def isAlphanumeric (char : Char) : Bool :=
  ('a' ≤ char && char ≤ 'z') || ('0' ≤ char && char ≤ '9')

/-- Letters, digits and hyphens, with no hyphen at either end. -/
def isLabel (text : List Char) : Bool :=
  text.all (fun char => isAlphanumeric char || char == '-') &&
    text.head?.any isAlphanumeric && text.getLast?.any isAlphanumeric

/-- What Kubernetes accepts: a namespace is one label and the name of a
resource is any number of labels with dots between them. -/
def wellNamed (key : ResourceKey) : Bool :=
  isLabel key.ns.toList && key.ns.length ≤ 63 &&
    (key.name.toList.splitOn '.').all isLabel && key.name.length ≤ 253

/-- The joined namespace and name can be cut further right, at a hyphen of the
name, to give those of the other resource. -/
def CutsInto (key other : ResourceKey) : Prop :=
  ∃ middle, other.ns = key.ns ++ "-" ++ middle ∧
    key.name = middle ++ "-" ++ other.name

/-- Either one resource is in the privileged namespace, and is named after the
namespace and the name of the other, or neither is, and the namespace of one
continues into the name of the other. -/
def Clashes (privileged : String) (key other : ResourceKey) : Prop :=
  if key.ns = privileged then
    other.ns ≠ privileged ∧ key.name = other.ns ++ "-" ++ other.name
  else if other.ns = privileged then
    other.name = key.ns ++ "-" ++ key.name
  else key.CutsInto other ∨ other.CutsInto key

end ResourceKey

private theorem toList_join (first second : String) :
    (first ++ "-" ++ second).toList =
      first.toList ++ '-' :: second.toList := by
  have hyphen : "-".toList = ['-'] := rfl
  rw [String.toList_append, String.toList_append, hyphen, List.append_assoc,
    List.singleton_append]

private theorem join_eq_join_iff {first second otherFirst otherSecond :
    String} :
    first ++ "-" ++ second = otherFirst ++ "-" ++ otherSecond ↔
      (first = otherFirst ∧ second = otherSecond) ∨
        (∃ middle, otherFirst = first ++ "-" ++ middle ∧
          second = middle ++ "-" ++ otherSecond) ∨
        (∃ middle, first = otherFirst ++ "-" ++ middle ∧
          otherSecond = middle ++ "-" ++ second) := by
  have strings : ∀ text : List Char, ∃ string : String,
      string.toList = text :=
    fun text => ⟨String.ofList text, String.toList_ofList⟩
  simp only [← String.toList_inj, toList_join, Separator.join_eq_join_iff]
  apply or_congr Iff.rfl
  apply or_congr
  · constructor
    · rintro ⟨middle, left, right⟩
      obtain ⟨string, rfl⟩ := strings middle
      exact ⟨string, left, right⟩
    · rintro ⟨string, left, right⟩
      exact ⟨string.toList, left, right⟩
  · constructor
    · rintro ⟨middle, left, right⟩
      obtain ⟨string, rfl⟩ := strings middle
      exact ⟨string, left, right⟩
    · rintro ⟨string, left, right⟩
      exact ⟨string.toList, left, right⟩

namespace OidcClientReconciler

/-- The default id: `buildClientId` where the specification leaves it open. -/
theorem buildClientId_default (reconciler : OidcClientReconciler)
    {spec : OidcClientSpec} (unset : spec.clientId = "") (name ns : String) :
    reconciler.buildClientId spec name ns =
      if ns = reconciler.clientPrivilegedNamespace then name
      else ns ++ "-" ++ name := by
  unfold buildClientId
  rw [unset, if_neg (not_not_intro rfl), ite_not]

/-- Two different resources have different default client ids exactly when
their names and namespaces do not clash. -/
theorem default_client_ids_differ_iff (reconciler : OidcClientReconciler)
    (key other : ResourceKey) (spec otherSpec : OidcClientSpec)
    (unset : spec.clientId = "") (otherUnset : otherSpec.clientId = "")
    (different : key ≠ other) :
    reconciler.buildClientId spec key.name key.ns ≠
        reconciler.buildClientId otherSpec other.name other.ns ↔
      ¬key.Clashes reconciler.clientPrivilegedNamespace other := by
  have distinct : ¬(key.ns = other.ns ∧ key.name = other.name) := by
    rintro ⟨sameNs, sameName⟩
    apply different
    cases key
    cases other
    cases sameNs
    cases sameName
    rfl
  rw [buildClientId_default reconciler unset,
    buildClientId_default reconciler otherUnset, ne_eq, not_iff_not]
  unfold ResourceKey.Clashes
  by_cases privileged : key.ns = reconciler.clientPrivilegedNamespace
  · by_cases otherPrivileged :
        other.ns = reconciler.clientPrivilegedNamespace
    · rw [if_pos privileged, if_pos otherPrivileged, if_pos privileged]
      constructor
      · intro sameName
        exact absurd ⟨privileged.trans otherPrivileged.symm, sameName⟩
          distinct
      · rintro ⟨outside, -⟩
        exact absurd otherPrivileged outside
    · rw [if_pos privileged, if_neg otherPrivileged, if_pos privileged]
      exact ⟨fun same => ⟨otherPrivileged, same⟩, And.right⟩
  · by_cases otherPrivileged :
        other.ns = reconciler.clientPrivilegedNamespace
    · rw [if_neg privileged, if_pos otherPrivileged, if_neg privileged,
        if_pos otherPrivileged]
      exact eq_comm
    · rw [if_neg privileged, if_neg otherPrivileged, if_neg privileged,
        if_neg otherPrivileged, join_eq_join_iff]
      exact or_iff_right distinct

def plainReconciler : OidcClientReconciler :=
  { clientPrivilegedNamespace := "kubauth", defaultStyle := "default" }

theorem default_client_ids_differ_iff_plain :
    plainReconciler.buildClientId default "front" "shop" ≠
      plainReconciler.buildClientId default "front" "kubauth" := by
  refine (default_client_ids_differ_iff plainReconciler
    { ns := "shop", name := "front" } { ns := "kubauth", name := "front" }
    default default rfl rfl (by decide)).mpr ?_
  rw [ResourceKey.Clashes, if_neg (by decide), if_pos (by decide)]
  decide

/-- Well-named resources whose ids clash, outside of the privileged namespace
and across its border. -/
theorem default_client_ids_clash :
    ({ ns := "shop", name := "eu-front" } : ResourceKey).wellNamed = true ∧
      ({ ns := "shop-eu", name := "front" } : ResourceKey).wellNamed =
        true ∧
      ({ ns := "kubauth", name := "shop-eu-front" } :
        ResourceKey).wellNamed = true ∧
      plainReconciler.buildClientId default "eu-front" "shop" =
        plainReconciler.buildClientId default "front" "shop-eu" ∧
      plainReconciler.buildClientId default "shop-eu-front" "kubauth" =
        plainReconciler.buildClientId default "front" "shop-eu" := by
  decide

end OidcClientReconciler

end Kubauth.Controllers
