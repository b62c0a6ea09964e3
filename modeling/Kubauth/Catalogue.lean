import Kubauth.GoMap

/-!
# Objects under their own keys

A map of objects in which each object is found under the key that it has
itself.
-/

/-- Objects, each under its own key. -/
structure Catalogue {κ : Type u} {ω : Type v} [DecidableEq κ]
    (keyOf : ω → κ) where
  entries : GoMap κ ω
  named : ∀ {key object}, GoMap.get entries key = some object →
    keyOf object = key

namespace Catalogue

variable {κ : Type u} {ω : Type v} [DecidableEq κ] {keyOf : ω → κ}

def empty : Catalogue keyOf :=
  { entries := []
    named := by
      intro key object absent
      cases absent }

def get (catalogue : Catalogue keyOf) (key : κ) : Option ω :=
  GoMap.get catalogue.entries key

def apply (catalogue : Catalogue keyOf) (object : ω) : Catalogue keyOf :=
  { entries := GoMap.set catalogue.entries (keyOf object) object
    named := by
      intro key present found
      rw [GoMap.get_set] at found
      split at found
      · next same =>
          cases found
          exact same
      · exact catalogue.named found }

def remove (catalogue : Catalogue keyOf) (key : κ) : Catalogue keyOf :=
  { entries := GoMap.delete catalogue.entries key
    named := by
      intro other present found
      rw [GoMap.get_delete] at found
      split at found
      · cases found
      · exact catalogue.named found }

/-- The keys of the objects with a property. -/
def find (catalogue : Catalogue keyOf) (wanted : ω → Bool) : List κ :=
  ((catalogue.entries.map Prod.snd).filter wanted).map keyOf

theorem get_apply_of_ne (catalogue : Catalogue keyOf) {object : ω} {key : κ}
    (other : key ≠ keyOf object) :
    (catalogue.apply object).get key = catalogue.get key :=
  GoMap.get_set_of_ne _ _ (Ne.symm other)

theorem get_remove_of_ne (catalogue : Catalogue keyOf) {removed key : κ}
    (other : key ≠ removed) :
    (catalogue.remove removed).get key = catalogue.get key :=
  GoMap.get_delete_of_ne _ (Ne.symm other)

theorem mem_find {catalogue : Catalogue keyOf} {wanted : ω → Bool} {key : κ}
    {object : ω} (found : catalogue.get key = some object)
    (has : wanted object = true) : key ∈ catalogue.find wanted := by
  refine List.mem_map.mpr ⟨object, ?_, catalogue.named found⟩
  refine List.mem_filter.mpr ⟨?_, has⟩
  exact List.mem_map.mpr ⟨(key, object), GoMap.mem_of_get found, rfl⟩

end Catalogue
