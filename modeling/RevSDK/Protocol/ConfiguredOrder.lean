import RevSDK.DataStorage.ProtocolsFile
import RevSDK.Protocol.SelectorChoice

/-!
# The configured order decides

`sortProtocols` throws the result of `std::remove_if` away, so the vector still
ends with names that are not available.  Only its front is read, and with a
name in common the front is the first one kept.
-/

namespace RevSDK

open RevSDK.Foundation

/-- The selector and the file that its `saveAvailable` writes. -/
structure StoredSelector where
  selector : ProtocolSelector
  file : ProtocolsFile

namespace StoredSelector

def saveAvailable (world : StoredSelector) : StoredSelector where
  selector := world.selector.saveAvailable
  file := DataStorage.saveAvailableProtocols world.file
    world.selector.mAvailableProtocols

def sortProtocols (leftover : List String → Nat → String)
    (world : StoredSelector) (aProtocolNamesOrdered : List String) :
    StoredSelector :=
  let selector := world.selector
  if !selector.mAvailableProtocols.isEmpty &&
      !aProtocolNamesOrdered.isEmpty then
    let names := removeIf leftover
      (fun item => !selector.mAvailableProtocols.contains item)
      aProtocolNamesOrdered
    match names.head? with
    | some front =>
        { world with
          selector := selector.convertIDToPropocol front }.saveAvailable
    | none => { world with selector := { selector with mBestProtocol := none } }
  else if aProtocolNamesOrdered.isEmpty then
    { world with selector := { selector with mBestProtocol := none } }
  else world

section Sorting

variable (leftover : List String → Nat → String) (world : StoredSelector)

theorem sortProtocols_selector (order : List String) :
    (world.sortProtocols leftover order).selector =
      world.selector.sortProtocols leftover order := by
  unfold sortProtocols ProtocolSelector.sortProtocols
  dsimp only
  split
  · cases (removeIf leftover (fun item =>
      !world.selector.mAvailableProtocols.contains item) order).head? <;> rfl
  · split <;> rfl

theorem sortProtocols_file {order : List String}
    (hcommon : ∃ name ∈ order, name ∈ world.selector.mAvailableProtocols) :
    (world.sortProtocols leftover order).file =
      DataStorage.saveAvailableProtocols world.file
        world.selector.mAvailableProtocols := by
  obtain ⟨name, horder, havailable⟩ := hcommon
  have hkept : name ∈ order.filter fun item =>
      !!world.selector.mAvailableProtocols.contains item :=
    List.mem_filter.mpr ⟨horder, by simpa using havailable⟩
  obtain ⟨first, kept, hfirst⟩ :=
    List.exists_cons_of_ne_nil (List.ne_nil_of_mem hkept)
  have hhead := head?_removeIf_kept leftover _ hfirst
  have horderNe : order ≠ [] := List.ne_nil_of_mem horder
  have havailableNe := List.ne_nil_of_mem havailable
  rw [sortProtocols, if_pos (by simp [horderNe, havailableNe])]
  simp only [hhead]
  rfl

theorem sortProtocols_mBestProtocol {before after : List String}
    {first : String} (hfirst : first ∈ world.selector.mAvailableProtocols)
    (hbefore : ∀ name ∈ before,
      name ∉ world.selector.mAvailableProtocols) :
    (world.sortProtocols leftover
        (before ++ first :: after)).selector.mBestProtocol =
      ProtocolSelector.protocolOfID first := by
  rw [sortProtocols_selector]
  have hkept : ((before ++ first :: after).filter fun item =>
      world.selector.mAvailableProtocols.contains item) =
        first :: after.filter fun item =>
          world.selector.mAvailableProtocols.contains item := by
    rw [List.filter_append, List.filter_eq_nil_iff.mpr (by simpa using hbefore),
      List.nil_append, List.filter_cons_of_pos (by simpa using hfirst)]
  exact ProtocolSelector.sortProtocols_kept leftover world.selector hkept

/--
With a name in common, the first configured one that is available decides, and
the file restores all that are available.
-/
theorem sortProtocols_follows_order (leftover : List String → Nat → String)
    (world : StoredSelector) (order : List String)
    (hcommon : ∃ name ∈ order, name ∈ world.selector.mAvailableProtocols) :
    let sorted := world.sortProtocols leftover order
    (∃ before first after, order = before ++ first :: after ∧
      first ∈ world.selector.mAvailableProtocols ∧
      (∀ name ∈ before, name ∉ world.selector.mAvailableProtocols) ∧
      sorted.selector.mBestProtocol =
        if first = quicProtocolName then some .QUICProtocol
        else if first = standardProtocolName then some .StandardProtocol
        else none) ∧
    sorted.selector.mAvailableProtocols =
      world.selector.mAvailableProtocols ∧
    ((∀ name ∈ world.selector.mAvailableProtocols, NulFree name) →
      DataStorage.restoreAvailableProtocols sorted.file =
        .ok world.selector.mAvailableProtocols) := by
  intro sorted
  refine ⟨?_, ?_, fun hnames => ?_⟩
  · have hfound : (order.find? fun name =>
        world.selector.mAvailableProtocols.contains name).isSome := by
      simpa [List.find?_isSome] using hcommon
    obtain ⟨first, hfirst⟩ := Option.isSome_iff_exists.mp hfound
    obtain ⟨havailable, before, after, rfl, hbefore⟩ :=
      List.find?_eq_some_iff_append.mp hfirst
    have hmem : first ∈ world.selector.mAvailableProtocols := by
      simpa using havailable
    have hnot : ∀ name ∈ before,
        name ∉ world.selector.mAvailableProtocols := by
      simpa using hbefore
    refine ⟨before, first, after, rfl, hmem, hnot, ?_⟩
    rw [sortProtocols_mBestProtocol leftover world hmem hnot]
    unfold ProtocolSelector.protocolOfID
    simp only [eq_comm]
  · rw [sortProtocols_selector]
    exact ProtocolSelector.sortProtocols_available leftover world.selector order
  · rw [sortProtocols_file leftover world hcommon]
    exact DataStorage.restore_saveAvailableProtocols world.file hnames

/-- An unknown name and a repeated one, among those that are available. -/
theorem sortProtocols_follows_order_repeated :
    let world : StoredSelector :=
      ⟨{ ProtocolSelector.construct [] with
        mAvailableProtocols := ["other", "standard", "standard"] }, none⟩
    DataStorage.restoreAvailableProtocols (world.sortProtocols
        (fun _ _ => "quic") ["quic", "standard", "quic"]).file =
      .ok ["other", "standard", "standard"] :=
  (sortProtocols_follows_order _ _ _
    ⟨"standard", by simp, by simp⟩).2.2 (by decide)

end Sorting

end StoredSelector

end RevSDK
