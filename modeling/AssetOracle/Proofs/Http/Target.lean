import AssetOracle.Http.Target
import AssetOracle.Proofs.Net.Split

/-!
# Targets and their paths

A path that is made of segments without slashes names the target that the segments name
(`ofPath?_of_segments`). A segment in the place of a parameter stands for its text without escapes
(`StandsFor`).
-/

namespace AssetOracle.Http.Target

theorem splitOn_intercalate {segments : List String} (hne : segments ≠ [])
    (h : ∀ s ∈ segments, '/' ∉ s.toList) :
    (Net.splitOn '/' ("/".intercalate segments).toList).map String.ofList = segments := by
  have hslash : "/".toList = ['/'] := by decide
  rw [String.toList_intercalate, hslash, Net.splitOn_intercalate (by simpa using hne), List.map_map]
  · simp [Function.comp_def]
  · simpa using h

/-- A path that is made of segments names what the segments name. -/
theorem ofPath?_of_segments {path : String} {segments : List String}
    (hpath : path = "/".intercalate ("" :: segments)) (h : ∀ s ∈ segments, '/' ∉ s.toList) :
    ofPath? path = ofSegments segments := by
  have hall : ∀ s ∈ "" :: segments, '/' ∉ s.toList := by
    rw [List.forall_mem_cons]
    exact ⟨by decide, h⟩
  rw [ofPath?, hpath, splitOn_intercalate (List.cons_ne_nil _ _) hall]
  rfl

/-! ## The paths of look-ups and imports -/

/-- Whether a segment of a path stands for a text once its escapes are replaced. -/
def StandsFor (segment text : String) : Prop :=
  '/' ∉ segment.toList ∧ Text.Utf8.decode? (Text.Percent.decode segment) = some text

variable {segment segment' text : String}

theorem parameter_of_standsFor {name : String} (h : StandsFor segment text) :
    parameter name segment = .ok text := by
  rw [parameter, h.2]

theorem ofPath?_info (h : '/' ∉ segment.toList) :
    ofPath? ("/nodes/" ++ segment ++ "/info") = some (.info segment) := by
  have hpath : "/nodes/" ++ segment ++ "/info" =
      "/".intercalate ["", "nodes", segment, "info"] := by
    rw [← String.toList_inj]
    simp
  rw [ofPath?_of_segments hpath]
  · rfl
  · simp [h]

theorem ofPath?_balance (h : '/' ∉ segment.toList) (h' : '/' ∉ segment'.toList) :
    ofPath? ("/nodes/" ++ segment ++ "/addrs/" ++ segment' ++ "/balance") =
      some (.balance segment segment') := by
  have hpath : "/nodes/" ++ segment ++ "/addrs/" ++ segment' ++ "/balance" =
      "/".intercalate ["", "nodes", segment, "addrs", segment', "balance"] := by
    rw [← String.toList_inj]
    simp
  rw [ofPath?_of_segments hpath]
  · simp only [ofSegments]
  · simp [h, h']

theorem ofPath?_transaction (h : '/' ∉ segment.toList) (h' : '/' ∉ segment'.toList)
    (hne : segment' ≠ "") :
    ofPath? ("/nodes/" ++ segment ++ "/txs/" ++ segment') =
      some (.transaction segment segment') := by
  have hpath : "/nodes/" ++ segment ++ "/txs/" ++ segment' =
      "/".intercalate ["", "nodes", segment, "txs", segment'] := by
    rw [← String.toList_inj]
    simp
  rw [ofPath?_of_segments hpath]
  · exact if_neg (by simpa using hne)
  · simp [h, h']

theorem ofPath?_importing (h : '/' ∉ segment.toList) :
    ofPath? ("/nodes/" ++ segment ++ "/addrs/import") = some (.importing segment) := by
  have hpath : "/nodes/" ++ segment ++ "/addrs/import" =
      "/".intercalate ["", "nodes", segment, "addrs", "import"] := by
    rw [← String.toList_inj]
    simp
  rw [ofPath?_of_segments hpath]
  · rfl
  · simp [h]

end AssetOracle.Http.Target
