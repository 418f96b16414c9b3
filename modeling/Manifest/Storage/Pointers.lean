import Manifest.Storage.DynamoDB
import Manifest.Storage.KeyOrder

/-!
# Pointers of a namespace

Each trace and each approval of a table is listed in one namespace by a pointer, and every
pointer lists one.  A put of a trace item changes nothing about this, a new trace or approval
comes with its pointer, and removing all items of a namespace leaves the others together.

Main results:

- Theorems `Kept.put_traceItem`, `Kept.put_run` and `Kept.put_approval`: what writes keep.
- Theorem `Kept.remove`: what a removal keeps.
- Theorem `Kept.belongs_unique`: no item is in two namespaces.
-/

set_option autoImplicit false

namespace Manifest

open Fallible

/-! ## Marks -/

/-- The attributes a reset looks at. -/
structure Mark where
  recordType : String
  traceId : String
  approvalId : Option String

def Item.mark (item : Item) : Mark where
  recordType := item.recordType
  traceId := item.traceId
  approvalId := item.approvalId

/-- The attributes of the item under a key. -/
def Table.mark (table : Table) (key : ItemKey) : Option Mark :=
  (table.get? key).map Item.mark

/-- What an action does to the attributes a reset looks at. -/
def WriteAction.marks (m : ItemKey → Option Mark) : WriteAction → ItemKey → Option Mark
  | .put key item => Function.update m key (some item.mark)
  | .update .. => m

namespace Table

theorem mark_set (table : Table) (key : ItemKey) (item : Item) :
    mark (table.set key item) = Function.update table.mark key (some item.mark) := by
  funext key'
  by_cases hkey : key' = key
  · subst hkey
    simp [mark]
  · rw [Function.update_of_ne hkey, mark, Dict.get?_set_ne _ _ hkey, mark]

theorem mark_of_get? {table : Table} {key : ItemKey} {item : Item}
    (h : table.get? key = some item) : table.mark key = some item.mark := by
  rw [mark, h, Option.map_some]

theorem isSome_mark (table : Table) (key : ItemKey) :
    (table.mark key).isSome = (table.get? key).isSome :=
  Option.isSome_map

theorem mark_write (table : Table) (action : WriteAction) :
    (table.write action).mark = action.marks table.mark := by
  cases action with
  | put key item => exact mark_set table key item
  | update key counter expected next document =>
      show _ = table.mark
      unfold write WriteAction.written
      cases hget : table.get? key with
      | none => simp [WriteAction.key, hget]
      | some item =>
          simp only [WriteAction.key, hget, Option.map_some]
          rw [mark_set]
          apply Function.update_eq_self_iff.mpr
          rw [mark_of_get? hget]
          cases counter <;> rfl

theorem mark_apply (table : Table) (actions : List WriteAction) :
    (table.apply actions).mark = actions.foldl WriteAction.marks table.mark := by
  induction actions generalizing table with
  | nil => rfl
  | cons action rest ih =>
      rw [List.foldl_cons, ← mark_write]
      exact ih (table.write action)

end Table

/-! ## How pointers belong to traces and approvals -/

/-- A namespace lists a trace. -/
def ListsTrace (m : ItemKey → Option Mark) (name traceId : String) : Prop :=
  (m ⟨.namespaced name, .namespaceTrace traceId⟩).isSome = true

/-- A namespace lists an approval. -/
def ListsApproval (m : ItemKey → Option Mark) (name approvalId : String) : Prop :=
  ∃ createdAt, (m ⟨.namespaced name, .namespaceApproval createdAt approvalId⟩).isSome = true

/-- Every trace and every approval is listed in one namespace, and every pointer lists one. -/
structure Kept (m : ItemKey → Option Mark) : Prop where
  printable : ∀ key, (m key).isSome = true → key.sk.Printable
  trace_listed : ∀ traceId, (m ⟨.trace traceId, .metaSk⟩).isSome = true →
    tracePk traceId = .ok (.trace traceId) ∧ ∃ name, ListsTrace m name traceId
  listed_trace : ∀ name traceId, ListsTrace m name traceId →
    (m ⟨.trace traceId, .metaSk⟩).isSome = true
  one_trace : ∀ name name' traceId, ListsTrace m name traceId → ListsTrace m name' traceId →
    name = name'
  approval_listed : ∀ approvalId sk, (m ⟨.approval approvalId, sk⟩).isSome = true →
    sk = .pointerSk ∧ approvalPointerPk approvalId = .ok (.approval approvalId) ∧
      ∃ name, ListsApproval m name approvalId
  listed_approval : ∀ name approvalId, ListsApproval m name approvalId →
    (m ⟨.approval approvalId, .pointerSk⟩).isSome = true
  one_approval : ∀ name name' approvalId, ListsApproval m name approvalId →
    ListsApproval m name' approvalId → name = name'
  pointers : ∀ name sk mark, m ⟨.namespaced name, sk⟩ = some mark →
    (∃ traceId, sk = .namespaceTrace traceId ∧ mark = ⟨"namespace_trace", traceId, none⟩) ∨
      ∃ createdAt approvalId, sk = .namespaceApproval createdAt approvalId ∧
        mark.recordType ≠ "namespace_trace" ∧ mark.approvalId = some approvalId

theorem Kept.empty : Kept fun _ => none := by
  constructor <;> simp [ListsTrace, ListsApproval]

namespace Kept

variable {m : ItemKey → Option Mark} {mark : Mark}

/-- An item of a trace other than `META` changes nothing about pointers. -/
theorem put_traceItem (h : Kept m) {traceId : String} {sk : SortKey} (hsk : sk ≠ .metaSk)
    (hprintable : sk.Printable) : Kept (Function.update m ⟨.trace traceId, sk⟩ (some mark)) := by
  have hother {key : ItemKey} (hkey : key ≠ ⟨.trace traceId, sk⟩) :
      Function.update m ⟨.trace traceId, sk⟩ (some mark) key = m key :=
    Function.update_of_ne hkey _ _
  have hlists (name id : String) :
      ListsTrace (Function.update m ⟨.trace traceId, sk⟩ (some mark)) name id ↔
        ListsTrace m name id := by
    unfold ListsTrace
    rw [hother (by simp)]
  have happroves (name id : String) :
      ListsApproval (Function.update m ⟨.trace traceId, sk⟩ (some mark)) name id ↔
        ListsApproval m name id := by
    unfold ListsApproval
    have hsame (createdAt : Timestamp) := @hother ⟨.namespaced name, .namespaceApproval createdAt id⟩
      (by simp)
    simp only [hsame]
  have hmeta (id : String) : Function.update m ⟨.trace traceId, sk⟩ (some mark)
      ⟨.trace id, .metaSk⟩ = m ⟨.trace id, .metaSk⟩ :=
    hother fun heq => hsk (ItemKey.mk.inj heq).2.symm
  constructor
  · intro key hkey
    by_cases heq : key = ⟨.trace traceId, sk⟩
    · rw [heq]
      exact hprintable
    · rw [hother heq] at hkey
      exact h.printable key hkey
  · intro id hid
    simp only [hlists]
    rw [hmeta] at hid
    exact h.trace_listed id hid
  · intro name id hid
    rw [hmeta]
    exact h.listed_trace name id ((hlists name id).mp hid)
  · intro name name' id hid hid'
    exact h.one_trace name name' id ((hlists name id).mp hid) ((hlists name' id).mp hid')
  · intro id sk' hid
    simp only [happroves]
    rw [hother (by simp)] at hid
    exact h.approval_listed id sk' hid
  · intro name id hid
    rw [hother (by simp)]
    exact h.listed_approval name id ((happroves name id).mp hid)
  · intro name name' id hid hid'
    exact h.one_approval name name' id ((happroves name id).mp hid) ((happroves name' id).mp hid')
  · intro name sk' mark' hmark
    rw [hother (by simp)] at hmark
    exact h.pointers name sk' mark' hmark

/-- A new trace and its pointer belong together. -/
theorem put_run (h : Kept m) {traceId name : String}
    (hfree : m ⟨.trace traceId, .metaSk⟩ = none)
    (hnamed : tracePk traceId = .ok (.trace traceId)) :
    Kept (Function.update (Function.update m ⟨.trace traceId, .metaSk⟩ (some mark))
      ⟨.namespaced name, .namespaceTrace traceId⟩
      (some ⟨"namespace_trace", traceId, none⟩)) := by
  generalize hm' : Function.update (Function.update m ⟨.trace traceId, .metaSk⟩ (some mark))
    ⟨.namespaced name, .namespaceTrace traceId⟩ (some ⟨"namespace_trace", traceId, none⟩) = m'
  have hother {key : ItemKey} (hmeta : key ≠ ⟨.trace traceId, .metaSk⟩)
      (hlist : key ≠ ⟨.namespaced name, .namespaceTrace traceId⟩) : m' key = m key := by
    rw [← hm', Function.update_of_ne hlist, Function.update_of_ne hmeta]
  have hself : m' ⟨.namespaced name, .namespaceTrace traceId⟩ =
      some ⟨"namespace_trace", traceId, none⟩ := by
    rw [← hm', Function.update_self]
  have hrun : (m' ⟨.trace traceId, .metaSk⟩).isSome = true := by
    rw [← hm', Function.update_of_ne (by simp), Function.update_self]
    rfl
  have hunlisted (name' : String) : ¬ ListsTrace m name' traceId := by
    intro hlists
    have hsome := h.listed_trace name' traceId hlists
    rw [hfree] at hsome
    cases hsome
  have hlists (name' id : String) :
      ListsTrace m' name' id ↔ (name' = name ∧ id = traceId) ∨ ListsTrace m name' id := by
    by_cases heq : name' = name ∧ id = traceId
    · obtain ⟨rfl, rfl⟩ := heq
      simp [ListsTrace, hself]
    · unfold ListsTrace
      rw [hother (by simp) (by simpa using heq)]
      simp [heq]
  have happroves (name' id : String) : ListsApproval m' name' id ↔ ListsApproval m name' id := by
    unfold ListsApproval
    have hsame (createdAt : Timestamp) := @hother
      ⟨.namespaced name', .namespaceApproval createdAt id⟩ (by simp) (by simp)
    simp only [hsame]
  have hmeta {id : String} (hid : id ≠ traceId) :
      m' ⟨.trace id, .metaSk⟩ = m ⟨.trace id, .metaSk⟩ :=
    hother (by simpa using hid) (by simp)
  constructor
  · intro key hkey
    by_cases hfirst : key = ⟨.trace traceId, .metaSk⟩
    · rw [hfirst]
      trivial
    by_cases hsecond : key = ⟨.namespaced name, .namespaceTrace traceId⟩
    · rw [hsecond]
      trivial
    rw [hother hfirst hsecond] at hkey
    exact h.printable key hkey
  · intro id hid
    by_cases heq : id = traceId
    · subst heq
      exact ⟨hnamed, name, (hlists name id).mpr (.inl ⟨rfl, rfl⟩)⟩
    · rw [hmeta heq] at hid
      obtain ⟨hpk, name', hname⟩ := h.trace_listed id hid
      exact ⟨hpk, name', (hlists name' id).mpr (.inr hname)⟩
  · intro name' id hid
    by_cases heq : id = traceId
    · rw [heq]
      exact hrun
    · rw [hmeta heq]
      exact h.listed_trace name' id (((hlists name' id).mp hid).resolve_left fun hnew =>
        heq hnew.2)
  · intro first second id hid hid'
    rcases (hlists first id).mp hid with ⟨rfl, rfl⟩ | hold
    · rcases (hlists second id).mp hid' with ⟨rfl, -⟩ | hold'
      · rfl
      · exact absurd hold' (hunlisted second)
    · rcases (hlists second id).mp hid' with ⟨rfl, rfl⟩ | hold'
      · exact absurd hold (hunlisted first)
      · exact h.one_trace first second id hold hold'
  · intro id sk hid
    simp only [happroves]
    rw [hother (by simp) (by simp)] at hid
    exact h.approval_listed id sk hid
  · intro name' id hid
    rw [hother (by simp) (by simp)]
    exact h.listed_approval name' id ((happroves name' id).mp hid)
  · intro first second id hid hid'
    exact h.one_approval first second id ((happroves first id).mp hid)
      ((happroves second id).mp hid')
  · intro name' sk mark' hmark
    by_cases heq : (⟨.namespaced name', sk⟩ : ItemKey) =
        ⟨.namespaced name, .namespaceTrace traceId⟩
    · rw [heq, hself] at hmark
      exact .inl ⟨traceId, (ItemKey.mk.inj heq).2, (Option.some.inj hmark).symm⟩
    · rw [hother (by simp) heq] at hmark
      exact h.pointers name' sk mark' hmark

/-- So do a new approval and its pointer. -/
theorem put_approval (h : Kept m) {approvalId name : String} {createdAt : Timestamp}
    {listed : Mark} (hfree : m ⟨.approval approvalId, .pointerSk⟩ = none)
    (hnamed : approvalPointerPk approvalId = .ok (.approval approvalId))
    (hrange : createdAt.InRange) (htype : listed.recordType ≠ "namespace_trace")
    (hid : listed.approvalId = some approvalId) :
    Kept (Function.update (Function.update m ⟨.approval approvalId, .pointerSk⟩ (some mark))
      ⟨.namespaced name, .namespaceApproval createdAt approvalId⟩ (some listed)) := by
  generalize hm' : Function.update (Function.update m ⟨.approval approvalId, .pointerSk⟩ (some mark))
    ⟨.namespaced name, .namespaceApproval createdAt approvalId⟩ (some listed) = m'
  have hother {key : ItemKey} (hpointer : key ≠ ⟨.approval approvalId, .pointerSk⟩)
      (hlist : key ≠ ⟨.namespaced name, .namespaceApproval createdAt approvalId⟩) :
      m' key = m key := by
    rw [← hm', Function.update_of_ne hlist, Function.update_of_ne hpointer]
  have hself : m' ⟨.namespaced name, .namespaceApproval createdAt approvalId⟩ = some listed := by
    rw [← hm', Function.update_self]
  have hpointer : (m' ⟨.approval approvalId, .pointerSk⟩).isSome = true := by
    rw [← hm', Function.update_of_ne (by simp), Function.update_self]
    rfl
  have hunlisted (name' : String) : ¬ ListsApproval m name' approvalId := by
    intro hlists
    have hsome := h.listed_approval name' approvalId hlists
    rw [hfree] at hsome
    cases hsome
  have hlists (name' id : String) : ListsTrace m' name' id ↔ ListsTrace m name' id := by
    unfold ListsTrace
    rw [hother (by simp) (by simp)]
  have happroves (name' id : String) :
      ListsApproval m' name' id ↔ (name' = name ∧ id = approvalId) ∨ ListsApproval m name' id := by
    by_cases heq : name' = name ∧ id = approvalId
    · obtain ⟨rfl, rfl⟩ := heq
      exact iff_of_true ⟨createdAt, by rw [hself]; rfl⟩ (.inl ⟨rfl, rfl⟩)
    · rw [or_iff_right heq]
      unfold ListsApproval
      refine exists_congr fun c => ?_
      rw [hother (by simp) (by simpa using fun hname _ hid => heq ⟨hname, hid⟩)]
  constructor
  · intro key hkey
    by_cases hfirst : key = ⟨.approval approvalId, .pointerSk⟩
    · rw [hfirst]
      trivial
    by_cases hsecond : key = ⟨.namespaced name, .namespaceApproval createdAt approvalId⟩
    · rw [hsecond]
      exact hrange
    rw [hother hfirst hsecond] at hkey
    exact h.printable key hkey
  · intro id hid
    simp only [hlists]
    rw [hother (by simp) (by simp)] at hid
    exact h.trace_listed id hid
  · intro name' id hid
    rw [hother (by simp) (by simp)]
    exact h.listed_trace name' id ((hlists name' id).mp hid)
  · intro first second id hid hid'
    exact h.one_trace first second id ((hlists first id).mp hid) ((hlists second id).mp hid')
  · intro id sk hsome
    by_cases heq : (⟨.approval id, sk⟩ : ItemKey) = ⟨.approval approvalId, .pointerSk⟩
    · obtain ⟨hpk, rfl⟩ := ItemKey.mk.inj heq
      obtain rfl := PartitionKey.approval.inj hpk
      exact ⟨rfl, hnamed, name, (happroves name id).mpr (.inl ⟨rfl, rfl⟩)⟩
    · rw [hother heq (by simp)] at hsome
      obtain ⟨hsk, hpk, name', hname⟩ := h.approval_listed id sk hsome
      exact ⟨hsk, hpk, name', (happroves name' id).mpr (.inr hname)⟩
  · intro name' id hlisted
    by_cases heq : id = approvalId
    · rw [heq]
      exact hpointer
    · rw [hother (by simpa using heq) (by simp)]
      exact h.listed_approval name' id (((happroves name' id).mp hlisted).resolve_left
        fun hnew => heq hnew.2)
  · intro first second id hfirst hsecond
    rcases (happroves first id).mp hfirst with ⟨rfl, rfl⟩ | hold
    · rcases (happroves second id).mp hsecond with ⟨rfl, -⟩ | hold'
      · rfl
      · exact absurd hold' (hunlisted second)
    · rcases (happroves second id).mp hsecond with ⟨rfl, rfl⟩ | hold'
      · exact absurd hold (hunlisted first)
      · exact h.one_approval first second id hold hold'
  · intro name' sk mark' hmark
    by_cases heq : (⟨.namespaced name', sk⟩ : ItemKey) =
        ⟨.namespaced name, .namespaceApproval createdAt approvalId⟩
    · rw [heq, hself] at hmark
      obtain rfl := Option.some.inj hmark
      exact .inr ⟨createdAt, approvalId, (ItemKey.mk.inj heq).2, htype, hid⟩
    · rw [hother (by simp) heq] at hmark
      exact h.pointers name' sk mark' hmark

end Kept

/-- The items of a namespace: those of the traces and approvals it lists, and the list. -/
def Belongs (m : ItemKey → Option Mark) (name : String) : ItemKey → Prop
  | ⟨.trace traceId, _⟩ => ListsTrace m name traceId
  | ⟨.approval approvalId, _⟩ => ListsApproval m name approvalId
  | ⟨.namespaced name', _⟩ => name' = name

namespace Kept

variable {m m' : ItemKey → Option Mark} {name : String}

/-- No item is in two namespaces. -/
theorem belongs_unique (h : Kept m) {name' : String} {key : ItemKey} (hfirst : Belongs m name key)
    (hsecond : Belongs m name' key) : name = name' := by
  obtain ⟨pk, sk⟩ := key
  cases pk with
  | trace traceId => exact h.one_trace name name' traceId hfirst hsecond
  | approval approvalId => exact h.one_approval name name' approvalId hfirst hsecond
  | namespaced listed => exact hfirst.symm.trans hsecond

/-- Removing all items of a namespace keeps the others together. -/
theorem remove (h : Kept m) (hgone : ∀ key, Belongs m name key → m' key = none)
    (hkeep : ∀ key, ¬ Belongs m name key → m' key = m key) : Kept m' := by
  have hsome {key : ItemKey} (hkey : (m' key).isSome = true) :
      ¬ Belongs m name key ∧ (m key).isSome = true := by
    by_cases hbelongs : Belongs m name key
    · rw [hgone key hbelongs] at hkey
      cases hkey
    · rw [hkeep key hbelongs] at hkey
      exact ⟨hbelongs, hkey⟩
  have hlists {name' id : String} : ListsTrace m' name' id ↔
      name' ≠ name ∧ ListsTrace m name' id := by
    constructor
    · exact fun hlists => hsome hlists
    · rintro ⟨hne, hlists⟩
      unfold ListsTrace
      rw [hkeep ⟨.namespaced name', _⟩ hne]
      exact hlists
  have happroves {name' id : String} : ListsApproval m' name' id ↔
      name' ≠ name ∧ ListsApproval m name' id := by
    constructor
    · rintro ⟨createdAt, hlists⟩
      obtain ⟨hne, hold⟩ := hsome hlists
      exact ⟨hne, createdAt, hold⟩
    · rintro ⟨hne, createdAt, hlists⟩
      refine ⟨createdAt, ?_⟩
      rw [hkeep ⟨.namespaced name', _⟩ hne]
      exact hlists
  constructor
  · exact fun key hkey => h.printable key (hsome hkey).2
  · intro id hid
    obtain ⟨hnot, hold⟩ := hsome hid
    obtain ⟨hpk, name', hname⟩ := h.trace_listed id hold
    exact ⟨hpk, name', hlists.mpr ⟨fun heq => hnot (heq ▸ hname), hname⟩⟩
  · intro name' id hid
    obtain ⟨hne, hold⟩ := hlists.mp hid
    rw [hkeep ⟨.trace id, _⟩ fun hnew => hne (h.one_trace name' name id hold hnew)]
    exact h.listed_trace name' id hold
  · intro first second id hid hid'
    exact h.one_trace first second id (hlists.mp hid).2 (hlists.mp hid').2
  · intro id sk hid
    obtain ⟨hnot, hold⟩ := hsome hid
    obtain ⟨hsk, hpk, name', hname⟩ := h.approval_listed id sk hold
    exact ⟨hsk, hpk, name', happroves.mpr ⟨fun heq => hnot (heq ▸ hname), hname⟩⟩
  · intro name' id hid
    obtain ⟨hne, hold⟩ := happroves.mp hid
    rw [hkeep ⟨.approval id, _⟩ fun hnew => hne (h.one_approval name' name id hold hnew)]
    exact h.listed_approval name' id hold
  · intro first second id hid hid'
    exact h.one_approval first second id (happroves.mp hid).2 (happroves.mp hid').2
  · intro name' sk mark hmark
    have hold := @hsome ⟨.namespaced name', sk⟩ (by rw [hmark]; rfl)
    rw [hkeep _ hold.1] at hmark
    exact h.pointers name' sk mark hmark

end Kept

end Manifest
