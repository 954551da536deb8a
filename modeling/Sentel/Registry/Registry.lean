import Mathlib.Data.List.AList
import Mathlib.Data.List.Sort
import Sentel.Library.GoString

namespace Sentel

open Library

/-!
# The registry

The registry keeps products and topic flavors in two collections of a
database.  A collection is the list of its documents in natural order: `Find`
compares fields for equality, `One` takes the first match and `All` takes every
match.  The fields that the broker does not read are left out.
-/

/-- A product names the flavor that restricts its devices. -/
structure Registry.Product where
  tenantId : GoString
  productId : GoString
  topicFlavor : GoString
  deriving DecidableEq

/-- The rights that a flavor gives on each of its topics. -/
structure Registry.TopicFlavor where
  flavorName : GoString
  tenantId : GoString
  topics : AList (fun _ : GoString => UInt8)

structure Registry where
  products : List Registry.Product
  topicFlavors : List Registry.TopicFlavor

namespace Registry

def getProducts (registry : Registry) (tenantId : GoString) : List Product :=
  (registry.products.filter (fun product => product.tenantId == tenantId)).insertionSort
    (fun first second => first.productId ≤ second.productId)

def findTopicFlavor (registry : Registry) (tenantId flavorName : GoString) : Option TopicFlavor :=
  registry.topicFlavors.find?
    (fun flavor => flavor.tenantId == tenantId && flavor.flavorName == flavorName)

def getTenantTopicFlavor (registry : Registry) (tenantId flavorName : GoString) :
    Option TopicFlavor :=
  registry.findTopicFlavor tenantId flavorName

def getProductTopicFlavors (registry : Registry) (productId : GoString) : List TopicFlavor :=
  match registry.products.find? (fun product => product.productId == productId) with
  | none => []
  | some p => (registry.findTopicFlavor p.productId p.topicFlavor).toList

theorem mem_getProducts {registry : Registry} {tenantId : GoString} {product : Product} :
    product ∈ registry.getProducts tenantId ↔
      product ∈ registry.products ∧ product.tenantId = tenantId := by
  rw [getProducts, List.mem_insertionSort, List.mem_filter, beq_iff_eq]

theorem getProductTopicFlavors_eq_singleton_iff {registry : Registry} {productId : GoString}
    {flavor : TopicFlavor} :
    registry.getProductTopicFlavors productId = [flavor] ↔
      exists first, registry.products.find? (fun product => product.productId == productId) =
          some first ∧
        registry.findTopicFlavor productId first.topicFlavor = some flavor := by
  rw [getProductTopicFlavors]
  cases found : registry.products.find? (fun product => product.productId == productId) with
  | none => simp
  | some first =>
    have same := List.find?_some found
    rw [beq_iff_eq] at same
    simp [same, Option.toList_eq_singleton_iff]

end Registry

end Sentel
