import FlightHub.Postgres.Limit
import FlightHub.Postgres.Uri
import Mathlib.Data.Rat.Defs

/-! The settings which the dashboard and the database clients read, from
`common/config.py`, and the connection URI which is made of them. It is put
together without percent-encoding, so the components decode to the settings
exactly when none of them holds a delimiter of its place. -/
namespace FlightHub
open Postgres

structure Settings where
  openskyLamin : ℚ := 589 / 20
  openskyLamax : ℚ := 667 / 20
  openskyLomin : ℚ := 137 / 4
  openskyLomax : ℚ := 359 / 10
  postgresHost : String := "localhost"
  postgresPort : Int := 5432
  postgresDb : String := "flighthub"
  postgresUser : String := "flighthub"
  postgresPassword : String := "flighthub"
  dashboardRefreshSeconds : ℚ := 15
  dashboardPassword : Option String := none

namespace Settings

def postgresDsn (settings : Settings) : String :=
  s!"postgresql://{settings.postgresUser}:{settings.postgresPassword}" ++
  s!"@{settings.postgresHost}:{settings.postgresPort}/{settings.postgresDb}"

/-- What the URI should set. -/
def conninfo (settings : Settings) : Conninfo where
  user := utf8 settings.postgresUser.toList
  password := utf8 settings.postgresPassword.toList
  host := utf8 settings.postgresHost.toList
  port := utf8 (toString settings.postgresPort).toList
  dbname := utf8 settings.postgresDb.toList

def Decodes (settings : Settings) : Prop :=
  parseUri settings.postgresDsn.toList = some settings.conninfo

end Settings

/-- A name without the delimiters of a URI. -/
def HostName (host : List Char) : Prop :=
  host ≠ [] ∧ ∀ c ∈ host, c ∉ ['%', ':', '/', '?', '#', '[', ']', '@', ',']

/-- No component holds a delimiter of its place or a percent sign. -/
structure Settings.Undelimited (settings : Settings) : Prop where
  user : ∀ c ∈ settings.postgresUser.toList, c ∉ ['%', ':', '@', '/']
  password : ∀ c ∈ settings.postgresPassword.toList, c ∉ ['%', '@', '/']
  database : ∀ c ∈ settings.postgresDb.toList, c ∉ ['%', '?']

namespace Settings
variable {settings : Settings}

theorem toList_postgresDsn (settings : Settings) : settings.postgresDsn.toList =
    "postgresql://".toList ++ (settings.postgresUser.toList ++ ':' :: (settings.postgresPassword.toList ++
      '@' :: (settings.postgresHost.toList ++ ':' :: ((toString settings.postgresPort).toList ++
        '/' :: settings.postgresDb.toList)))) := by
  have text (s : String) : toString s = s := rfl
  have colon : ":".toList = [':'] := rfl
  have at_sign : "@".toList = ['@'] := rfl
  have slash : "/".toList = ['/'] := rfl
  unfold postgresDsn
  simp only [text, String.toList_append]
  simp only [colon, at_sign, slash, List.append_assoc, List.cons_append, List.nil_append]

theorem parseUri_postgresDsn (settings : Settings) : parseUri settings.postgresDsn.toList =
    parseAuthority (settings.postgresUser.toList ++ ':' :: (settings.postgresPassword.toList ++
      '@' :: (settings.postgresHost.toList ++ ':' :: ((toString settings.postgresPort).toList ++
        '/' :: settings.postgresDb.toList)))) := by
  rw [toList_postgresDsn, parseUri, if_pos (List.isPrefixOf_iff_prefix.mpr (List.prefix_append _ _))]
  congr 1

theorem port_undelimited (port : Int) :
    (toString port).toList ≠ [] ∧ ∀ c ∈ (toString port).toList, c ∉ ['%', '/', '?'] := by
  obtain ⟨nonempty, all⟩ := (numeral_toString port).chars
  refine ⟨nonempty, fun c member delimiter => ?_⟩
  have written := all c member
  simp only [List.mem_cons, List.not_mem_nil, or_false] at delimiter
  obtain rfl | rfl | rfl := delimiter <;> cases written

/-- Behind the credentials only the database can go wrong. -/
theorem parseLocation_iff (host : HostName settings.postgresHost.toList)
    (database : settings.postgresDb ≠ "") (user password : Option (List UInt8)) :
    parseLocation user password (settings.postgresHost.toList ++ ':' ::
        ((toString settings.postgresPort).toList ++ '/' :: settings.postgresDb.toList)) =
      some settings.conninfo ↔
    user = settings.conninfo.user ∧ password = settings.conninfo.password ∧
      ∀ c ∈ settings.postgresDb.toList, c ∉ ['%', '?'] := by
  obtain ⟨portNonempty, portFree⟩ := port_undelimited settings.postgresPort
  have hostFree : ∀ c ∈ settings.postgresHost.toList, c ∉ ['%', ':', '/', '?'] :=
    free_of_subset host.2 (by decide)
  have nonempty : settings.postgresDb.toList ≠ [] := by simpa using database
  rw [parseLocation_eq host.1 hostFree portNonempty portFree, ← stored_upTo_iff nonempty]
  simp only [Option.map_eq_some_iff, conninfo, Conninfo.mk.injEq]
  constructor
  · rintro ⟨name, kept, rfl, rfl, -, -, rfl⟩
    exact ⟨rfl, rfl, kept⟩
  · rintro ⟨rfl, rfl, kept⟩
    exact ⟨_, kept, rfl, rfl, trivial, trivial, rfl⟩

theorem decodes_of_undelimited (host : HostName settings.postgresHost.toList)
    (user : settings.postgresUser ≠ "") (password : settings.postgresPassword ≠ "")
    (database : settings.postgresDb ≠ "") (plain : settings.Undelimited) : settings.Decodes := by
  rw [Decodes, parseUri_postgresDsn,
    parseAuthority_eq (by simpa using user) plain.user (by simpa using password) plain.password]
  exact (parseLocation_iff host database _ _).mpr ⟨rfl, rfl, plain.database⟩

theorem undelimited_of_decodes (host : HostName settings.postgresHost.toList)
    (user : settings.postgresUser ≠ "") (password : settings.postgresPassword ≠ "")
    (database : settings.postgresDb ≠ "") (decoded : settings.Decodes) : settings.Undelimited := by
  have userNonempty : settings.postgresUser.toList ≠ [] := by simpa using user
  have passwordNonempty : settings.postgresPassword.toList ≠ [] := by simpa using password
  rw [Decodes, parseUri_postgresDsn] at decoded
  have userFree := user_of_parseAuthority decoded rfl userNonempty
  have passwordFree := password_of_parseAuthority userFree decoded rfl passwordNonempty
  rw [parseAuthority_eq userNonempty userFree passwordNonempty passwordFree] at decoded
  exact ⟨userFree, passwordFree, ((parseLocation_iff host database _ _).mp decoded).2.2⟩

theorem decodes_iff_undelimited (host : HostName settings.postgresHost.toList)
    (user : settings.postgresUser ≠ "") (password : settings.postgresPassword ≠ "")
    (database : settings.postgresDb ≠ "") : settings.Decodes ↔ settings.Undelimited :=
  ⟨undelimited_of_decodes host user password database, decodes_of_undelimited host user password database⟩

theorem hostName_localhost : HostName "localhost".toList := by
  have free : "localhost".toList.all (fun c => c ∉ ['%', ':', '/', '?', '#', '[', ']', '@', ',']) = true := by
    decide
  exact ⟨by decide, fun c member => by simpa using List.all_eq_true.mp free c member⟩

theorem decodes_iff_undelimited_default : Settings.Decodes {} ↔ Settings.Undelimited {} :=
  decodes_iff_undelimited hostName_localhost (by decide) (by decide) (by decide)

/-- A random password may hold a slash. Its text up to there is then read as the port. -/
theorem not_decodes_slash : ¬ Settings.Decodes { postgresPassword := "r4nd/m" } := by
  unfold Decodes
  decide +kernel

end Settings

end FlightHub
