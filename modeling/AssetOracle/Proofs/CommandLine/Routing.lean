import AssetOracle.CommandLine.Query
import AssetOracle.Config.Validation
import AssetOracle.Http.Server
import AssetOracle.Proofs.Http.Envelope
import AssetOracle.Proofs.Http.Target
import AssetOracle.Proofs.Result
import AssetOracle.Proofs.Url.Origin
import Mathlib.Data.List.Forall2

/-!
# Queries that arrive

Whether the request that a query from the command line becomes is routed by the service to what the
query asks for, with the words of the command line as the parameters. The words are put into a URL
as they are, so the request arrives if and only if each of them is kept there as one segment and the
URL does not become too long (`Invocation.arrives_iff`).
-/

namespace AssetOracle.Http.Target

open Net (weight total)
open Url (decodedTotal encodePart inPathSet)

variable {target target' : Target} {raw text name : String}

/-! ## Targets by their segments -/

/-- The segments of the path of a target. -/
def segments : Target → List String
  | .ping => ["ping"]
  | .nodes => ["nodes"]
  | .info asset => ["nodes", asset, "info"]
  | .balance asset address => ["nodes", asset, "addrs", address, "balance"]
  | .importing asset => ["nodes", asset, "addrs", "import"]
  | .transaction asset id => ["nodes", asset, "txs", id]

/-- The texts of the path of a target, as characters. -/
def texts (target : Target) : List (List Char) := target.segments.map String.toList

/-- A target with its parameters as they are written in the path of a URL. -/
def escaped : Target → Target
  | .ping => .ping
  | .nodes => .nodes
  | .info asset => .info (encodePart inPathSet asset.toList)
  | .balance asset address =>
    .balance (encodePart inPathSet asset.toList) (encodePart inPathSet address.toList)
  | .importing asset => .importing (encodePart inPathSet asset.toList)
  | .transaction asset id =>
    .transaction (encodePart inPathSet asset.toList) (encodePart inPathSet id.toList)

theorem segments_of_ofSegments {names : List String} (h : ofSegments names = some target) :
    names = target.segments := by
  unfold ofSegments at h
  split at h
  · obtain rfl := Option.some.inj h
    rfl
  · obtain rfl := Option.some.inj h
    rfl
  · obtain rfl := Option.some.inj h
    rfl
  · obtain rfl := Option.some.inj h
    rfl
  · obtain rfl := Option.some.inj h
    rfl
  · split at h
    · cases h
    · obtain rfl := Option.some.inj h
      rfl
  · cases h

theorem segments_escaped (target : Target) :
    target.escaped.segments = target.texts.map (encodePart inPathSet) := by
  have hping : encodePart inPathSet "ping".toList = "ping" := by decide +kernel
  have hnodes : encodePart inPathSet "nodes".toList = "nodes" := by decide +kernel
  have hinfo : encodePart inPathSet "info".toList = "info" := by decide +kernel
  have haddrs : encodePart inPathSet "addrs".toList = "addrs" := by decide +kernel
  have hbalance : encodePart inPathSet "balance".toList = "balance" := by decide +kernel
  have himport : encodePart inPathSet "import".toList = "import" := by decide +kernel
  have htxs : encodePart inPathSet "txs".toList = "txs" := by decide +kernel
  cases target <;> simp only [escaped, segments, texts, List.map_cons, List.map_nil, hping, hnodes,
    hinfo, haddrs, hbalance, himport, htxs]

/-- The segments of a target name it, unless they end in a slash. -/
theorem ofSegments_segments (h : ∀ asset, target ≠ .transaction asset "") :
    ofSegments target.segments = some target := by
  cases target with
  | transaction asset id =>
    have hid : id ≠ "" := by
      rintro rfl
      exact h asset rfl
    exact if_neg (by simpa using hid)
  | balance asset address => simp only [segments, ofSegments]
  | _ => rfl

/-- A path that ends in an empty id names nothing. -/
theorem ofSegments_of_empty_id {asset : String} (h : target = .transaction asset "") :
    ofSegments target.escaped.segments = none := by
  have hempty : encodePart inPathSet "".toList = "" := Url.encodePart_eq_empty_iff.2 rfl
  rw [h, escaped, hempty]
  rfl

theorem ofSegments_escaped (h : ∀ asset, target ≠ .transaction asset "") :
    ofSegments target.escaped.segments = some target.escaped := by
  refine ofSegments_segments fun asset hescaped => ?_
  cases target with
  | transaction asset' id =>
    obtain ⟨-, hid⟩ := Target.transaction.inj hescaped
    rw [Url.encodePart_eq_empty_iff.1 hid] at h
    exact h asset' rfl
  | _ => cases hescaped

/-! ## Parameters -/

theorem parameter_escaped (h : ¬Text.Percent.Escaped text.toList) :
    parameter name (encodePart inPathSet text.toList) = .ok text := by
  rw [parameter, Url.decode_encodePart, Text.Percent.decodeBytes_of_not_escaped h,
    ← Text.Utf8.encode_eq_flatMap, Text.Utf8.decode?_encode]

/-- Whether a text has no more bytes than a segment stands for. -/
def FitsIn (text segment : String) : Prop :=
  weight text.toList ≤ (Text.Percent.decode segment).length

theorem fitsIn_of_parameter (h : parameter name raw = .ok text) : FitsIn text raw := by
  unfold parameter at h
  split at h
  · rename_i read hread
    obtain rfl := Except.ok.inj h
    have hle := Text.Utf8.length_encode_le_of_decode? hread
    rwa [Text.Utf8.encode_eq_flatMap] at hle
  · cases h

theorem fitsIn_self (h : '%' ∉ text.toList) : FitsIn text text := by
  rw [FitsIn, Text.Percent.decode, Text.Utf8.encode_eq_flatMap,
    Text.Percent.decodeBytes_of_not_escaped (Text.Percent.not_escaped_of_not_mem h)]
  exact Nat.le_refl _

/-- The texts of a target fit into the segments that its parameters were read from. -/
theorem fitsIn_of_decode (h : target.decode = .ok target') :
    List.Forall₂ FitsIn target'.segments target.segments := by
  have hnodes : FitsIn "nodes" "nodes" := fitsIn_self (by decide)
  have haddrs : FitsIn "addrs" "addrs" := fitsIn_self (by decide)
  cases target with
  | ping =>
    obtain rfl := Except.ok.inj h
    exact .cons (fitsIn_self (by decide)) .nil
  | nodes =>
    obtain rfl := Except.ok.inj h
    exact .cons hnodes .nil
  | info asset =>
    obtain ⟨text, hasset, h⟩ := Result.bind_eq_ok_iff.1 h
    obtain rfl := Except.ok.inj h
    have hinfo : FitsIn "info" "info" := fitsIn_self (by decide)
    exact .cons hnodes (.cons (fitsIn_of_parameter hasset) (.cons hinfo .nil))
  | balance asset address =>
    obtain ⟨text, hasset, h⟩ := Result.bind_eq_ok_iff.1 h
    obtain ⟨text', haddress, h⟩ := Result.bind_eq_ok_iff.1 h
    obtain rfl := Except.ok.inj h
    have hbalance : FitsIn "balance" "balance" := fitsIn_self (by decide)
    exact .cons hnodes (.cons (fitsIn_of_parameter hasset) (.cons haddrs
      (.cons (fitsIn_of_parameter haddress) (.cons hbalance .nil))))
  | importing asset =>
    obtain ⟨text, hasset, h⟩ := Result.bind_eq_ok_iff.1 h
    obtain rfl := Except.ok.inj h
    have himport : FitsIn "import" "import" := fitsIn_self (by decide)
    exact .cons hnodes (.cons (fitsIn_of_parameter hasset) (.cons haddrs (.cons himport .nil)))
  | transaction asset id =>
    obtain ⟨text, hasset, h⟩ := Result.bind_eq_ok_iff.1 h
    obtain ⟨text', hid, h⟩ := Result.bind_eq_ok_iff.1 h
    obtain rfl := Except.ok.inj h
    have htxs : FitsIn "txs" "txs" := fitsIn_self (by decide)
    exact .cons hnodes (.cons (fitsIn_of_parameter hasset) (.cons htxs
      (.cons (fitsIn_of_parameter hid) .nil)))

theorem total_le_of_fitsIn {words names : List String} (h : List.Forall₂ FitsIn words names) :
    total (words.map String.toList) ≤ decodedTotal names := by
  induction h with
  | nil => exact Nat.le_refl _
  | cons hword _ ih =>
    rw [List.map_cons, Net.total_cons, Url.decodedTotal_cons]
    exact Nat.add_le_add (Nat.succ_le_succ hword) ih

/-- A target whose texts have no escapes is what it is read as after its texts are written in a
    path. -/
theorem decode_escaped (h : ∀ text ∈ target.texts, ¬Text.Percent.Escaped text) :
    target.escaped.decode = .ok target := by
  cases target with
  | ping => rfl
  | nodes => rfl
  | info asset =>
    rw [escaped, decode, parameter_escaped (h _ (by simp [texts, segments]))]
    rfl
  | balance asset address =>
    rw [escaped, decode, parameter_escaped (h _ (by simp [texts, segments])),
      parameter_escaped (h _ (by simp [texts, segments]))]
    rfl
  | importing asset =>
    rw [escaped, decode, parameter_escaped (h _ (by simp [texts, segments]))]
    rfl
  | transaction asset id =>
    rw [escaped, decode, parameter_escaped (h _ (by simp [texts, segments])),
      parameter_escaped (h _ (by simp [texts, segments]))]
    rfl

theorem accepts_of_decode (h : target.decode = .ok target') (method : Method) :
    target.accepts method = target'.accepts method := by
  cases target with
  | ping =>
    obtain rfl := Except.ok.inj h
    rfl
  | nodes =>
    obtain rfl := Except.ok.inj h
    rfl
  | info asset =>
    obtain ⟨text, -, h⟩ := Result.bind_eq_ok_iff.1 h
    obtain rfl := Except.ok.inj h
    cases method <;> rfl
  | balance asset address =>
    obtain ⟨text, -, h⟩ := Result.bind_eq_ok_iff.1 h
    obtain ⟨text', -, h⟩ := Result.bind_eq_ok_iff.1 h
    obtain rfl := Except.ok.inj h
    cases method <;> rfl
  | importing asset =>
    obtain ⟨text, -, h⟩ := Result.bind_eq_ok_iff.1 h
    obtain rfl := Except.ok.inj h
    cases method <;> rfl
  | transaction asset id =>
    obtain ⟨text, -, h⟩ := Result.bind_eq_ok_iff.1 h
    obtain ⟨text', -, h⟩ := Result.bind_eq_ok_iff.1 h
    obtain rfl := Except.ok.inj h
    cases method <;> rfl

/-- If a path made of the texts of a target names a target that is read as it, the texts are kept,
    and the last of them has no blank at its end. -/
theorem kept_of_ofSegments {names : List String}
    (hnames : names = Url.segments true (Url.pathPart (['/'].intercalate target'.texts)))
    (htarget : ofSegments names = some target) (hdecode : target.decode = .ok target') :
    (∀ text ∈ target'.texts, Url.Kept text) ∧
      ∀ c ∈ (['/'].intercalate target'.texts).getLast?, 0x20 < c.toNat := by
  have hfits := fitsIn_of_decode hdecode
  have hne : target'.texts ≠ [] := by cases target' <;> exact List.cons_ne_nil _ _
  rw [← segments_of_ofSegments htarget, hnames] at hfits
  have hlength := hfits.length_eq
  refine Url.kept_of_names hne ?_ (total_le_of_fitsIn hfits)
  rw [texts, List.length_map, hlength]
  rfl

end AssetOracle.Http.Target

namespace AssetOracle.CommandLine

open Http (Target Server ImportRequest)
open Url (Kept IsOrigin encodePart inPathSet)

/-! ## Services and queries -/

/-- Whether a text is the URL of a service, as it is named on a command line: scheme, authority, and
    any slashes behind them. -/
def IsService (server : String) : Prop :=
  ∃ scheme authority slashes : List Char,
    server.toList = scheme ++ ':' :: '/' :: '/' :: (authority ++ slashes) ∧
      IsOrigin scheme authority ∧ ∀ c ∈ slashes, c = '/'

namespace Query

/-- What a query asks a service for. -/
def target : Query → Target
  | .nodes _ => .nodes
  | .info asset => .info asset
  | .balance asset address => .balance asset address
  | .transaction asset id => .transaction asset id
  | .importing asset _ => .importing asset

/-- The body of the request for an import. -/
def importBody (address : String) : List UInt8 :=
  Text.Utf8.encode (Json.ofMembers [("addr", .text address)]).compact

/-- Whether the words of a query can be put into a request as they are: each one that becomes a part
    of the path is kept there as one segment, the id of a transaction, which ends the path, is not
    empty and does not end in a blank, and the body of an import is not too long. -/
def Intact : Query → Prop
  | .nodes _ => True
  | .info asset => Kept asset.toList
  | .balance asset address => Kept asset.toList ∧ Kept address.toList
  | .transaction asset id =>
    Kept asset.toList ∧ Kept id.toList ∧ id ≠ "" ∧ ∀ c ∈ id.toList.getLast?, 0x20 < c.toNat
  | .importing asset address =>
    Kept asset.toList ∧ (importBody address).length ≤ Http.Request.maxBody

theorem toList_path (q : Query) :
    q.path.toList = '/' :: ['/'].intercalate q.target.texts := by
  cases q <;> simp [path, target, Target.texts, Target.segments, List.intercalate_cons_cons]

theorem kept_of_isAlpha {cs : List Char} (h : cs.all (·.isAlpha) = true) : Kept cs := by
  have hletter : ∀ c ∈ cs, c.isAlpha = true := List.all_eq_true.1 h
  refine ⟨⟨?_, ?_, Text.Percent.not_escaped_of_not_mem fun hmem => ?_⟩, fun c hc hmem => ?_⟩
  · rintro rfl
    exact absurd h (by decide)
  · rintro rfl
    exact absurd h (by decide)
  · exact absurd (hletter _ hmem) (by decide)
  · have hnone : ∀ c ∈ ['/', '\\', '?', '#', '\t', '\n', '\r'], c.isAlpha = false :=
      List.all_iff_forall_prop.1 (by decide)
    have hc' := hletter c hc
    rw [hnone c hmem] at hc'
    cases hc'

/-- The words of a query can be put into a request if they are kept as parts of its path. -/
theorem intact_iff (q : Query) :
    q.Intact ↔ (∀ text ∈ q.target.texts, Kept text) ∧
      (∀ c ∈ (['/'].intercalate q.target.texts).getLast?, 0x20 < c.toNat) ∧
      (∀ asset, q.target ≠ .transaction asset "") ∧
      ∀ asset address, q = .importing asset address →
        (importBody address).length ≤ Http.Request.maxBody := by
  have hnodes : Kept "nodes".toList := kept_of_isAlpha (by decide)
  have haddrs : Kept "addrs".toList := kept_of_isAlpha (by decide)
  have hinfo : Kept "info".toList := kept_of_isAlpha (by decide)
  have hbalance : Kept "balance".toList := kept_of_isAlpha (by decide)
  have himport : Kept "import".toList := kept_of_isAlpha (by decide)
  have htxs : Kept "txs".toList := kept_of_isAlpha (by decide)
  have hfixed {word : List Char} (hword : word.all (0x20 < ·.toNat) = true) :
      ∀ c ∈ word.getLast?, 0x20 < c.toNat := fun c hc =>
    List.all_iff_forall_prop.1 hword c (List.mem_of_getLast? hc)
  -- The last text is a fixed word in every path but that of a transaction.
  have hlast (front : List (List Char)) (word : List Char) (hword : word ≠ []) :
      (∀ c ∈ (['/'].intercalate (front ++ [word])).getLast?, 0x20 < c.toNat) ↔
        ∀ c ∈ word.getLast?, 0x20 < c.toNat := by
    rw [Net.getLast?_intercalate hword]
  cases q with
  | nodes noinfo =>
    have hends := (hlast [] "nodes".toList (by decide)).2 (hfixed (by decide))
    refine ⟨fun _ => ⟨?_, hends, nofun, nofun⟩, fun _ => trivial⟩
    exact List.forall_mem_singleton.2 hnodes
  | info asset =>
    have hends := (hlast ["nodes".toList, asset.toList] "info".toList (by decide)).2
      (hfixed (by decide))
    have htexts : (∀ text ∈ (info asset).target.texts, Kept text) ↔ Kept asset.toList := by
      simp only [target, Target.texts, Target.segments, List.map_cons, List.map_nil,
        List.forall_mem_cons, List.not_mem_nil, false_imp_iff, implies_true, hnodes, hinfo,
        true_and, and_true]
    rw [htexts]
    exact ⟨fun h => ⟨h, hends, nofun, nofun⟩, fun h => h.1⟩
  | balance asset address =>
    have hends := (hlast ["nodes".toList, asset.toList, "addrs".toList, address.toList]
      "balance".toList (by decide)).2 (hfixed (by decide))
    have htexts : (∀ text ∈ (balance asset address).target.texts, Kept text) ↔
        Kept asset.toList ∧ Kept address.toList := by
      simp only [target, Target.texts, Target.segments, List.map_cons, List.map_nil,
        List.forall_mem_cons, List.not_mem_nil, false_imp_iff, implies_true, hnodes, haddrs, hbalance,
        true_and, and_true]
    rw [htexts]
    exact ⟨fun h => ⟨h, hends, nofun, nofun⟩, fun h => h.1⟩
  | transaction asset id =>
    have htexts : (∀ text ∈ (transaction asset id).target.texts, Kept text) ↔
        Kept asset.toList ∧ Kept id.toList := by
      simp only [target, Target.texts, Target.segments, List.map_cons, List.map_nil,
        List.forall_mem_cons, List.not_mem_nil, false_imp_iff, implies_true, hnodes, htxs,
        true_and, and_true]
    have hends (hid : id ≠ "") := hlast ["nodes".toList, asset.toList, "txs".toList]
      id.toList (by simpa using hid)
    rw [htexts]
    constructor
    · rintro ⟨hasset, hkept, hid, hblank⟩
      refine ⟨⟨hasset, hkept⟩, (hends hid).2 hblank, fun asset' heq => ?_, nofun⟩
      exact hid (Target.transaction.inj heq).2
    · rintro ⟨⟨hasset, hkept⟩, hblank, hid, -⟩
      have hne : id ≠ "" := by
        rintro rfl
        exact hid asset rfl
      exact ⟨hasset, hkept, hne, (hends hne).1 hblank⟩
  | importing asset address =>
    have hends := (hlast ["nodes".toList, asset.toList, "addrs".toList]
      "import".toList (by decide)).2 (hfixed (by decide))
    have htexts : (∀ text ∈ (importing asset address).target.texts, Kept text) ↔
        Kept asset.toList := by
      simp only [target, Target.texts, Target.segments, List.map_cons, List.map_nil,
        List.forall_mem_cons, List.not_mem_nil, false_imp_iff, implies_true, hnodes, haddrs, himport,
        true_and, and_true]
    rw [htexts]
    constructor
    · rintro ⟨hasset, hlength⟩
      refine ⟨hasset, hends, nofun, fun asset' address' heq => ?_⟩
      rw [← (Query.importing.inj heq).2]
      exact hlength
    · rintro ⟨hasset, -, -, hlength⟩
      exact ⟨hasset, hlength asset address rfl⟩

end Query

namespace Invocation

variable {i : Invocation}

/-- Whether the request of an invocation arrives at what the invocation asks for: its URL is not too
    long for a request, its path names a target that takes its method and whose parameters are read
    as the words of the command line, and the body of an import is read as the address. -/
def Arrives (i : Invocation) : Prop :=
  ∃ url target, i.url? = some url ∧ (Rpc.requestUrl url).IsShort ∧
    Target.ofPath? (i.request url).path = some target ∧
    target.accepts (i.request url).method = true ∧ target.decode = .ok i.query.target ∧
    ∀ asset address, i.query = .importing asset address →
      (i.request url).decodeBody ImportRequest.decode = .ok ⟨address⟩

/-- The names in the path of the URL that is asked. -/
def names (i : Invocation) : List String :=
  Url.segments true (Url.pathPart (['/'].intercalate i.query.target.texts))

/-- The slashes behind a service are taken off. -/
theorem dropWhile_slashes {scheme authority slashes : List Char} (h : IsOrigin scheme authority)
    (hslashes : ∀ c ∈ slashes, c = '/') :
    ((scheme ++ ':' :: '/' :: '/' :: (authority ++ slashes)).reverse.dropWhile (· = '/')).reverse =
      scheme ++ ':' :: '/' :: '/' :: authority := by
  obtain ⟨front, last, rfl⟩ :=
    (List.eq_nil_or_concat' authority).resolve_left h.authority_ne_nil
  have hlast : last ≠ '/' := by
    rintro rfl
    exact h.whole '/' (by simp) (by decide)
  have hall : ∀ c ∈ slashes.reverse, decide (c = '/') = true := fun c hc =>
    decide_eq_true (hslashes c (List.mem_reverse.1 hc))
  have hreverse : (scheme ++ ':' :: '/' :: '/' :: (front ++ [last] ++ slashes)).reverse =
      slashes.reverse ++ last :: (scheme ++ ':' :: '/' :: '/' :: front).reverse := by
    simp
  rw [hreverse, List.dropWhile_append_of_pos hall, List.dropWhile_cons_of_neg (by simpa using hlast)]
  simp

/-- A service can be asked for anything: the URL can always be read. -/
theorem exists_url? (h : IsService i.server) :
    ∃ url, i.url? = some url ∧ url.path = .segments i.names := by
  obtain ⟨scheme, authority, slashes, hserver, horigin, hslashes⟩ := h
  obtain ⟨url, hparse, hscheme, hpath⟩ :=
    horigin.exists_parse? (['/'].intercalate i.query.target.texts)
  have hweb : url.IsWeb := hscheme
  have htext : String.ofList (i.server.toList.reverse.dropWhile (· = '/')).reverse ++ i.query.path =
      String.ofList (scheme ++ ':' :: '/' :: '/' ::
        (authority ++ '/' :: ['/'].intercalate i.query.target.texts)) := by
    rw [hserver, dropWhile_slashes horigin hslashes, ← String.toList_inj, String.toList_append,
      Query.toList_path]
    simp
  simp only [url?, htext, hparse, Option.bind_eq_bind, Option.bind_some, if_pos hweb]
  refine ⟨_, rfl, ?_⟩
  split <;> exact hpath

theorem names_ne_nil (i : Invocation) : i.names ≠ [] :=
  Url.resolveDots_ne_nil (Net.splitOn_ne_nil _ _) []

theorem names_of_kept (hkept : ∀ text ∈ i.query.target.texts, Kept text)
    (hlast : ∀ c ∈ (['/'].intercalate i.query.target.texts).getLast?, 0x20 < c.toNat) :
    i.names = i.query.target.escaped.segments := by
  have hne : i.query.target.texts ≠ [] := by cases i.query <;> exact List.cons_ne_nil _ _
  rw [names, Url.names_of_kept hne hkept hlast, Target.segments_escaped]

theorem ofPath?_request {url : Url} (hpath : url.path = .segments i.names) :
    Target.ofPath? (i.request url).path = Target.ofSegments i.names := by
  have hrequest : (i.request url).path = "/".intercalate ("" :: i.names) := by
    rw [← Url.render_segments i.names_ne_nil, ← hpath]
    unfold request
    split <;> rfl
  refine Target.ofPath?_of_segments hrequest ?_
  exact Url.slash_not_mem_resolveDots (fun piece hpiece => Net.not_mem_of_mem_splitOn hpiece)
    (by simp)

theorem accepts_request (i : Invocation) (url : Url) {target : Target}
    (hdecode : target.decode = .ok i.query.target) :
    target.accepts (i.request url).method = true := by
  rw [Target.accepts_of_decode hdecode, request]
  cases i.query <;> rfl

theorem decodeBody_request {url : Url} {asset address : String}
    (hquery : i.query = .importing asset address) :
    (i.request url).decodeBody ImportRequest.decode = .ok ⟨address⟩ ↔
      (Query.importBody address).length ≤ Http.Request.maxBody := by
  have hrequest : i.request url =
      { method := .post
        path := url.path.render
        query := url.query
        headers := [("content-type", "application/json")]
        body := Query.importBody address } := by
    rw [request, hquery]
    rfl
  have hjson : (i.request url).hasJson = true := by
    have hheader : Http.Request.hasJson
        { method := .post, path := "", headers := [("content-type", "application/json")] } =
          true := by
      decide +kernel
    rw [hrequest]
    exact hheader
  have hbody : (i.request url).body = Query.importBody address := by
    rw [hrequest]
  have hread : (Json.Source.ofBytes (Query.importBody address)).decode ImportRequest.decode =
      .ok ⟨address⟩ := by
    have hportable : Json.Portable (126 + 1) (Json.ofMembers [("addr", .text address)]) := by
      apply Json.Portable.ofMembers
      simp [Json.Portable.text]
    exact (Json.decode_ofText_compact hportable _).trans (ImportRequest.decode_encode address)
  rw [Http.Request.decodeBody, hjson, hbody, if_neg (by decide), hread]
  by_cases hlength : Http.Request.maxBody < (Query.importBody address).length
  · rw [if_pos hlength]
    exact ⟨fun herror => (nomatch herror), fun hle => absurd hlength (Nat.not_lt.2 hle)⟩
  · rw [if_neg hlength]
    exact ⟨fun _ => Nat.not_lt.1 hlength, fun _ => rfl⟩

/-- An invocation of a service arrives at what it asks for if and only if its words can be put into
    a request as they are and the URL is not too long with them. If it arrives, the work that any
    server does for the request is that for what was asked. -/
theorem arrives_iff (h : IsService i.server) :
    (i.Arrives ↔ i.query.Intact ∧ ∀ url, i.url? = some url → (Rpc.requestUrl url).IsShort) ∧
      (i.Arrives → ∃ url, i.url? = some url ∧ ∀ s : Server,
        s.work (i.request url) = .ofTarget s.registry (i.request url) i.query.target) := by
  obtain ⟨url, hurl, hpath⟩ := exists_url? h
  have htarget := ofPath?_request hpath
  refine ⟨⟨?_, ?_⟩, ?_⟩
  · rintro ⟨url', target, hurl', hshort, htarget', -, hdecode, hbody⟩
    obtain rfl := Option.some.inj (hurl.symm.trans hurl')
    rw [htarget] at htarget'
    obtain ⟨hkept, hlast⟩ := Target.kept_of_ofSegments rfl htarget' hdecode
    refine ⟨i.query.intact_iff.2 ⟨hkept, hlast, fun asset hempty => ?_,
      fun asset address hquery => ?_⟩, fun other hother => ?_⟩
    · rw [names_of_kept hkept hlast, Target.ofSegments_of_empty_id hempty] at htarget'
      cases htarget'
    · exact (decodeBody_request hquery).1 (hbody asset address hquery)
    · exact Option.some.inj (hurl.symm.trans hother) ▸ hshort
  · rintro ⟨hintact, hshort⟩
    obtain ⟨hkept, hlast, hid, hlength⟩ := i.query.intact_iff.1 hintact
    have hdecode := Target.decode_escaped fun text htext => (hkept text htext).unescaped
    refine ⟨url, i.query.target.escaped, hurl, hshort url hurl, ?_, accepts_request i url hdecode,
      hdecode, ?_⟩
    · rw [htarget, names_of_kept hkept hlast, Target.ofSegments_escaped hid]
    · intro asset address hquery
      exact (decodeBody_request hquery).2 (hlength asset address hquery)
  · rintro ⟨url', target, hurl', -, htarget', haccepts, hdecode, -⟩
    refine ⟨url', hurl', fun s => ?_⟩
    simp only [Server.work, htarget', Http.Work.ofRequest, haccepts, hdecode]
    rfl

/-- A look-up of an address with a blank, a percent sign and a letter outside ASCII. -/
def spelledOut : Invocation := ⟨"http://localhost:8080//", .balance "btc" "5% é"⟩

theorem isService_spelledOut : IsService spelledOut.server :=
  ⟨"http".toList, "localhost:8080".toList, ['/', '/'], by decide,
    ⟨.inl (by decide), List.all_iff_forall_prop.1 (by decide), by decide +kernel⟩,
    List.all_iff_forall_prop.1 (by decide)⟩

/-- It arrives, and the balance of just this address is looked up. -/
theorem arrives_spelledOut : spelledOut.Arrives ∧ ∃ url, spelledOut.url? = some url ∧
    ∀ s : Server, s.work (spelledOut.request url) =
      .ofTarget s.registry (spelledOut.request url) (.balance "btc" "5% é") := by
  have hnot : ¬Text.Percent.Escaped "5% é".toList := by
    intro hescaped
    have hlength := Text.Percent.length_decodeBytes_lt hescaped
    exact absurd hlength (by decide +kernel)
  have hintact : spelledOut.query.Intact :=
    ⟨Query.kept_of_isAlpha (by decide), ⟨by decide, by decide, hnot⟩,
      List.all_iff_forall_prop.1 (by decide)⟩
  have hshort : ∀ url, spelledOut.url? = some url → (Rpc.requestUrl url).IsShort := by
    have hall : spelledOut.url?.all (fun url => (Rpc.requestUrl url).IsShort) = true := by
      decide +kernel
    exact fun url hurl => by simpa [hurl] using hall
  obtain ⟨hiff, hwork⟩ := arrives_iff isService_spelledOut
  have harrives := hiff.2 ⟨hintact, hshort⟩
  exact ⟨harrives, hwork harrives⟩

/-- A configuration with a slash in the id of its node. -/
def divided : Config where
  nodes := [{ asset := "a/b", kind := .evm }]

/-- Validation accepts the configuration, but its node cannot be asked for by its id. -/
theorem not_arrives_divided : divided.isValid (fun _ => none) = true ∧
    ∃ node ∈ divided.nodes, ¬(⟨defaultServer, .info node.asset⟩ : Invocation).Arrives := by
  refine ⟨by decide +kernel, _, List.mem_singleton.2 rfl, ?_⟩
  rintro ⟨url, target, hurl, -, htarget, -⟩
  have hnone : ((⟨defaultServer, .info "a/b"⟩ : Invocation).url?.bind fun url =>
      Target.ofPath? url.path.render) = none := by
    decide +kernel
  rw [hurl, Option.bind_some] at hnone
  exact absurd (hnone.symm.trans htarget) (Option.some_ne_none _).symm

end Invocation

end AssetOracle.CommandLine
