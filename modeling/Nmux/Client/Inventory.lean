import Nmux.Live.Client

/-! The client's copy of the inventory of attached clients. A snapshot replaces it and a patch changes
it, but only from the version the copy has. -/
namespace Nmux.Client

open Lib (OrderedMap)
open Live (ClientConnectionSummary ServerFrame)

/-- A snapshot or a patch of the inventory. -/
inductive InventoryFrame where
  | snapshot (version : Nat) (clients : List ClientConnectionSummary)
  | patch (baseVersion version : Nat) (joined updated : List ClientConnectionSummary)
      (leftConnectionIds : List String)
deriving DecidableEq, Repr

def InventoryFrame.version : InventoryFrame → Nat
  | .snapshot version _ => version
  | .patch _ version _ _ _ => version

/-- The version a patch is of. -/
def InventoryFrame.baseVersion? : InventoryFrame → Option Nat
  | .snapshot _ _ => none
  | .patch baseVersion _ _ _ _ => some baseVersion

/-- What a frame says of the inventory. -/
def inventoryFrame? : ServerFrame → Option InventoryFrame
  | .inventorySnapshot version clients => some (.snapshot version clients)
  | .inventoryPatch baseVersion version joined updated leftConnectionIds =>
    some (.patch baseVersion version joined updated leftConnectionIds)
  | _ => none

structure ClientInventoryCache where
  version : Nat
  clients : OrderedMap String ClientConnectionSummary

namespace ClientInventoryCache

/-- `ClientInventoryCache::default`. -/
def empty : ClientInventoryCache := { version := 0, clients := .empty }

/-- Clients put under their connection ids, later ones in place of earlier. -/
def insertAll (clients : OrderedMap String ClientConnectionSummary)
    (added : List ClientConnectionSummary) : OrderedMap String ClientConnectionSummary :=
  added.foldl (fun clients client => clients.insert client.connectionId client) clients

def removeAll (clients : OrderedMap String ClientConnectionSummary) (connectionIds : List String) :
    OrderedMap String ClientConnectionSummary :=
  connectionIds.foldl OrderedMap.erase clients

def applySnapshot (version : Nat) (clients : List ClientConnectionSummary) : ClientInventoryCache :=
  { version, clients := insertAll .empty clients }

def applyPatch (cache : ClientInventoryCache) (baseVersion version : Nat)
    (joined updated : List ClientConnectionSummary) (leftConnectionIds : List String) :
    Except String ClientInventoryCache :=
  if baseVersion ≠ cache.version then .error "client inventory patch base version mismatch"
  else
    .ok { version, clients := insertAll (removeAll cache.clients leftConnectionIds) (joined ++ updated) }

/-- One frame of the stream. -/
def apply (cache : ClientInventoryCache) : InventoryFrame → Except String ClientInventoryCache
  | .snapshot version clients => .ok (applySnapshot version clients)
  | .patch baseVersion version joined updated leftConnectionIds =>
    cache.applyPatch baseVersion version joined updated leftConnectionIds

/-- The stream in order, up to a patch that is refused. -/
def applyAll (cache : ClientInventoryCache) (stream : List InventoryFrame) :
    Except String ClientInventoryCache :=
  stream.foldlM apply cache

/-- The clients the copy knows of. -/
def connectionIds (cache : ClientInventoryCache) : List String := cache.clients.keys

theorem mem_insertAll {clients : OrderedMap String ClientConnectionSummary}
    {added : List ClientConnectionSummary} {id : String} :
    id ∈ (insertAll clients added).keys ↔
      id ∈ clients.keys ∨ id ∈ added.map ClientConnectionSummary.connectionId := by
  unfold insertAll
  induction added generalizing clients with
  | nil => simp
  | cons client rest ih =>
    rw [List.foldl_cons, ih, OrderedMap.mem_keys_insert, List.map_cons, List.mem_cons]
    tauto

theorem mem_removeAll {clients : OrderedMap String ClientConnectionSummary}
    {connectionIds : List String} {id : String} :
    id ∈ (removeAll clients connectionIds).keys ↔ id ∈ clients.keys ∧ id ∉ connectionIds := by
  unfold removeAll
  induction connectionIds generalizing clients with
  | nil => simp
  | cons connectionId rest ih =>
    rw [List.foldl_cons, ih, OrderedMap.mem_keys_erase, List.mem_cons]
    tauto

theorem mem_applySnapshot {version : Nat} {clients : List ClientConnectionSummary} {id : String} :
    id ∈ (applySnapshot version clients).connectionIds ↔
      id ∈ clients.map ClientConnectionSummary.connectionId := by
  unfold applySnapshot connectionIds
  rw [mem_insertAll]
  exact or_iff_right List.not_mem_nil

/-- A patch of the version the copy has is taken: who left is gone and who joined or changed is there. -/
theorem applyPatch_ok {cache : ClientInventoryCache} (version : Nat)
    (joined updated : List ClientConnectionSummary) (leftConnectionIds : List String) :
    ∃ patched, cache.applyPatch cache.version version joined updated leftConnectionIds = .ok patched ∧
      patched.version = version ∧
      ∀ id, id ∈ patched.connectionIds ↔
        id ∈ cache.connectionIds ∧ id ∉ leftConnectionIds ∨
          id ∈ joined.map ClientConnectionSummary.connectionId ∨
          id ∈ updated.map ClientConnectionSummary.connectionId := by
  unfold applyPatch
  refine ⟨_, if_neg (not_not.mpr rfl), rfl, fun id => ?_⟩
  unfold connectionIds
  rw [mem_insertAll, mem_removeAll, List.map_append, List.mem_append]

theorem applyAll_concat {cache : ClientInventoryCache} {stream : List InventoryFrame}
    {frame : InventoryFrame} :
    cache.applyAll (stream ++ [frame]) = (cache.applyAll stream).bind (·.apply frame) := by
  unfold applyAll
  rw [List.foldlM_append]
  cases stream.foldlM apply cache with
  | error => rfl
  | ok applied =>
    show (List.foldlM apply applied [frame] : Except String ClientInventoryCache) = applied.apply frame
    rw [List.foldlM_cons]
    exact bind_pure _

end ClientInventoryCache

/-! ### Streams -/

/-- The version of the last frame. -/
def lastVersion (stream : List InventoryFrame) : Option Nat :=
  stream.getLast?.map InventoryFrame.version

/-- Every patch is of the version of the frame before it. -/
def Chained (stream : List InventoryFrame) : Prop :=
  ∀ (before after : List InventoryFrame) (frame : InventoryFrame), stream = before ++ frame :: after →
    ∀ baseVersion ∈ frame.baseVersion?, lastVersion before = some baseVersion

theorem Chained.nil : Chained [] := by
  intro before after frame hsplit
  exact absurd hsplit.symm (by simp)

/-- One more frame: a patch must be of the last version. -/
theorem Chained.concat {stream : List InventoryFrame} {frame : InventoryFrame} (h : Chained stream)
    (hframe : ∀ baseVersion ∈ frame.baseVersion?, lastVersion stream = some baseVersion) :
    Chained (stream ++ [frame]) := by
  intro before after inner hsplit
  rcases List.eq_nil_or_concat after with rfl | ⟨after, last, rfl⟩
  · obtain ⟨rfl, hlast⟩ := List.append_inj' hsplit rfl
    exact List.singleton_inj.mp hlast ▸ hframe
  · rw [List.concat_eq_append, ← List.cons_append, ← List.append_assoc] at hsplit
    exact h before after inner (List.append_inj' hsplit rfl).1

/-- The stream is chained and read without a patch being refused; what is read is of the version, and of
the clients. -/
structure InStep (version : Nat) (connectionIds : List String) (stream : List InventoryFrame) : Prop where
  chained : Chained stream
  last : lastVersion stream = some version
  read : ∃ cache, ClientInventoryCache.empty.applyAll stream = .ok cache ∧ cache.version = version ∧
    ∀ id, id ∈ cache.connectionIds ↔ id ∈ connectionIds

namespace InStep

variable {version : Nat} {connectionIds : List String} {stream : List InventoryFrame}

theorem congr {others : List String} (h : InStep version connectionIds stream)
    (hids : ∀ id, id ∈ others ↔ id ∈ connectionIds) : InStep version others stream := by
  obtain ⟨cache, hread, hversion, hcache⟩ := h.read
  exact ⟨h.chained, h.last, cache, hread, hversion, fun id => (hcache id).trans (hids id).symm⟩

/-- The first snapshot brings the stream in step. -/
theorem start (clients : List ClientConnectionSummary) :
    InStep version (clients.map ClientConnectionSummary.connectionId) [.snapshot version clients] where
  chained := Chained.nil.concat (by nofun)
  last := rfl
  read := ⟨.applySnapshot version clients, rfl, rfl, fun _ => ClientInventoryCache.mem_applySnapshot⟩

/-- A patch of the last version keeps it so. -/
theorem patch {after : Nat} {joined updated : List ClientConnectionSummary}
    {leftConnectionIds : List String} (h : InStep version connectionIds stream) {remaining : List String}
    (hids : ∀ id, id ∈ remaining ↔ id ∈ connectionIds ∧ id ∉ leftConnectionIds ∨
      id ∈ joined.map ClientConnectionSummary.connectionId ∨
      id ∈ updated.map ClientConnectionSummary.connectionId) :
    InStep after remaining (stream ++ [.patch version after joined updated leftConnectionIds]) := by
  obtain ⟨cache, hread, hversion, hcache⟩ := h.read
  obtain ⟨patched, hpatch, hafter, hpatched⟩ :=
    cache.applyPatch_ok after joined updated leftConnectionIds
  refine ⟨h.chained.concat ?_, ?_, patched, ?_, hafter, fun id => ?_⟩
  · rintro baseVersion ⟨⟩
    exact h.last
  · unfold lastVersion
    rw [List.getLast?_concat]
    rfl
  · rw [ClientInventoryCache.applyAll_concat, hread, ← hversion]
    exact hpatch
  · rw [hpatched, hcache, hids]

end InStep

end Nmux.Client
