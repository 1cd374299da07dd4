/-
The servers of a connection. Of the parts of a list between its commas, those that are not blank
are servers, and there are always some, since the default ones stand in where a list names none.
Joined with commas they make a list that names the same servers again.
-/

import Enrolment.Connection
import Enrolment.Proofs.Cutting

namespace Enrolment

open Text

/-! ### Texts in the environment -/

namespace Environment

variable {environment : Environment} {name text : String}

theorem fromUTF8?_eq_some_iff {bytes : ByteArray} :
    String.fromUTF8? bytes = some text ↔ bytes = text.toUTF8 := by
  constructor
  · intro read
    unfold String.fromUTF8? at read
    split at read
    · rw [← Option.some.inj read]
      rfl
    · cases read
  · rintro rfl
    exact dif_pos text.isValidUTF8

theorem text?_eq_some_iff :
    environment.text? name = some text ↔ environment name = some text.toUTF8 := by
  rw [text?, Option.bind_eq_some_iff]
  simp only [fromUTF8?_eq_some_iff, exists_eq_right]

theorem text?_eq_none_iff :
    environment.text? name = none ↔ ∀ text : String, environment name ≠ some text.toUTF8 := by
  simp only [Option.eq_none_iff_forall_ne_some, ne_eq, text?_eq_some_iff]

end Environment

namespace Connection

/-! ### Lists of servers -/

inductive Leaves : List (List Char) → List String → Prop
  | nothing : Leaves [] []
  | blank {part : List Char} {parts : List (List Char)} {servers : List String}
      (blank : Stripped part []) (others : Leaves parts servers) :
      Leaves (part :: parts) servers
  | server {part : List Char} {parts : List (List Char)} {server : String}
      {servers : List String} (stripped : Stripped part server.toList) (nonempty : server ≠ "")
      (others : Leaves parts servers) : Leaves (part :: parts) (server :: servers)

def Names (text : String) (servers : List String) : Prop :=
  ∃ parts, Parted ',' text.toList parts ∧ Leaves parts servers

structure IsServer (server : String) : Prop where
  nonempty : server ≠ ""
  noComma : ',' ∉ server.toList
  stripped : Stripped server.toList server.toList

theorem Leaves.eq {parts : List (List Char)} {servers : List String}
    (leaves : Leaves parts servers) :
    servers = ((parts.map strip).filter (· ≠ [])).map String.ofList := by
  induction leaves with
  | nothing => rfl
  | blank blank _ ih =>
      rw [List.map_cons, ← stripped_iff.mp blank, ih]
      rfl
  | @server part parts server servers stripped nonempty _ ih =>
      have kept : decide (server.toList ≠ []) = true := by
        rw [decide_eq_true_eq, ne_eq, String.toList_eq_nil_iff]
        exact nonempty
      rw [List.map_cons, ← stripped_iff.mp stripped, List.filter_cons, if_pos kept, List.map_cons,
        String.ofList_toList, ← ih]

theorem leaves_strip (parts : List (List Char)) :
    Leaves parts (((parts.map strip).filter (· ≠ [])).map String.ofList) := by
  induction parts with
  | nil => exact .nothing
  | cons part parts ih =>
      by_cases nothing : strip part = []
      · rw [List.map_cons, nothing]
        exact .blank (stripped_iff.mpr nothing.symm) ih
      · rw [List.map_cons, List.filter_cons, if_pos (decide_eq_true nothing), List.map_cons]
        refine .server ?_ ?_ ih
        · rw [String.toList_ofList]
          exact stripped_strip part
        · rw [ne_eq, ← String.toList_eq_nil_iff, String.toList_ofList]
          exact nothing

theorem names_iff {text : String} {servers : List String} :
    Names text servers ↔ servers = serverList text := by
  constructor
  · rintro ⟨parts, parted, leaves⟩
    rw [leaves.eq, parted_iff.mp parted, serverList]
  · rintro rfl
    exact ⟨_, parted_pieces ',' text.toList, leaves_strip _⟩

example : serverList "a,, b ,\t,a" = ["a", "b", "a"] := by decide

theorem Leaves.isServer {parts : List (List Char)} {servers : List String}
    (leaves : Leaves parts servers) (free : ∀ part ∈ parts, ',' ∉ part) :
    ∀ server ∈ servers, IsServer server := by
  induction leaves with
  | nothing => exact List.forall_mem_nil _
  | blank _ _ ih => exact ih fun part isPart => free part (List.mem_cons_of_mem _ isPart)
  | @server part parts server servers stripped nonempty _ ih =>
      rw [List.forall_mem_cons] at free ⊢
      refine ⟨⟨nonempty, ?_, stripped.self⟩, ih free.2⟩
      -- A server lies within its part, and no comma does.
      obtain ⟨before, after, whole, -⟩ := stripped.surrounded
      intro inServer
      apply free.1
      rw [whole]
      exact List.mem_append_left _ (List.mem_append_right _ inServer)

/-- Servers that are parts already are left as they are. -/
theorem leaves_map_toList {servers : List String} (isServer : ∀ server ∈ servers, IsServer server) :
    Leaves (servers.map String.toList) servers := by
  induction servers with
  | nil => exact .nothing
  | cons server servers ih =>
      rw [List.forall_mem_cons] at isServer
      exact .server isServer.1.stripped isServer.1.nonempty (ih isServer.2)

theorem names_join {servers : List String} (nonempty : servers ≠ [])
    (isServer : ∀ server ∈ servers, IsServer server) : Names (",".intercalate servers) servers := by
  refine ⟨servers.map String.toList, ⟨String.toList_intercalate, ?_, ?_⟩,
    leaves_map_toList isServer⟩
  · exact mt List.map_eq_nil_iff.mp nonempty
  · intro part isPart
    obtain ⟨server, inServers, rfl⟩ := List.mem_map.mp isPart
    exact (isServer server inServers).noComma

/-! ### Loading -/

/-- Where the servers of a connection come from. A variable that is not set, or that is set to
bytes which are no text, names none. -/
inductive Provides (environment : Environment) : List String → Prop
  | named {text : String} {servers : List String}
      (given : environment "NATS_URL" = some text.toUTF8) (names : Names text servers)
      (nonempty : servers ≠ []) : Provides environment servers
  | blank {text : String} (given : environment "NATS_URL" = some text.toUTF8)
      (names : Names text []) : Provides environment defaults.servers
  | unset (absent : ∀ text : String, environment "NATS_URL" ≠ some text.toUTF8) :
      Provides environment defaults.servers

section Provides

variable {environment : Environment} {servers : List String}

theorem servers_load (environment : Environment) :
    (load environment).servers =
      if ((environment.text? "NATS_URL").map serverList).getD [] = [] then defaults.servers
      else ((environment.text? "NATS_URL").map serverList).getD [] := rfl

theorem provides_load (environment : Environment) :
    Provides environment (load environment).servers := by
  rw [servers_load]
  cases given : environment.text? "NATS_URL" with
  | none => exact .unset (Environment.text?_eq_none_iff.mp given)
  | some text =>
      have names : Names text (serverList text) := names_iff.mpr rfl
      rw [Option.map_some, Option.getD_some]
      rw [Environment.text?_eq_some_iff] at given
      split
      · next nothing =>
          rw [nothing] at names
          exact .blank given names
      · next nonempty => exact .named given names nonempty

theorem Provides.load (provides : Provides environment servers) :
    (load environment).servers = servers := by
  rw [servers_load]
  cases provides with
  | named given names nonempty =>
      rw [Environment.text?_eq_some_iff.mpr given, Option.map_some, Option.getD_some,
        ← names_iff.mp names, if_neg nonempty]
  | blank given names =>
      rw [Environment.text?_eq_some_iff.mpr given, Option.map_some, Option.getD_some,
        ← names_iff.mp names, if_pos rfl]
  | unset absent =>
      rw [Environment.text?_eq_none_iff.mpr absent]
      rfl

theorem isServer_default : ∀ server ∈ defaults.servers, IsServer server := by
  intro server isDefault
  obtain rfl := List.mem_singleton.mp isDefault
  exact ⟨by decide, by decide, stripped_iff.mpr (by decide)⟩

theorem Provides.nonempty (provides : Provides environment servers) : servers ≠ [] := by
  cases provides with
  | named _ _ nonempty => exact nonempty
  | blank | unset => exact List.cons_ne_nil _ _

theorem Provides.isServer (provides : Provides environment servers) :
    ∀ server ∈ servers, IsServer server := by
  cases provides with
  | named _ names =>
      obtain ⟨parts, parted, leaves⟩ := names
      exact leaves.isServer parted.free
  | blank | unset => exact isServer_default

end Provides

/-- The servers are what the environment provides and nothing else, and their address provides
them again, whatever else is set where it is read. -/
structure Served (environment : Environment) (connection : Connection) : Prop where
  servers_iff : ∀ servers, connection.servers = servers ↔ Provides environment servers
  nonempty : connection.servers ≠ []
  isServer : ∀ server ∈ connection.servers, IsServer server
  again : ∀ other : Environment, other "NATS_URL" = some connection.address.toUTF8 →
    (load other).servers = connection.servers

theorem loses_no_server (environment : Environment) : Served environment (load environment) := by
  have provides := provides_load environment
  refine ⟨fun servers => ⟨?_, Provides.load⟩, provides.nonempty, provides.isServer, ?_⟩
  · rintro rfl
    exact provides
  · intro other given
    have names := names_join provides.nonempty provides.isServer
    exact Provides.load (.named given names provides.nonempty)

end Connection

end Enrolment
