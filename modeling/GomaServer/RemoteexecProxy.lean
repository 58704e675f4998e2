import GomaServer.Acl

/-!
# Who remoteexec_proxy lets in

`main` splits `--allowed-users` at its commas, trims each entry, and sorts the
entries into users and, for an entry `*@domain`, domains. `defaultACL.Load` makes
of them one group for the tokens of the goma client's OAuth client, served through
the service account of `--service-account-json`, and the proxy's checker has no
`AuthDB`.
-/

namespace GomaServer.RemoteexecProxy

open Acl

/-- `gomaClientClientID`, the OAuth client of the goma client. -/
def gomaClientClientID : String :=
  "687418631491-r6m1c3pr0lth5atp4ie07f03ae8omefc.apps.googleusercontent.com"

/-- `defaultACL`. -/
structure DefaultACL where
  allowedUser : List String
  allowedDomains : List String
  deriving DecidableEq, Repr

/-- The loop of `main` over the entries of `--allowed-users`: each entry is
trimmed; an entry `*@domain` adds its domain, any other adds itself as a user. -/
def allowedUsersLoop : List String → DefaultACL → DefaultACL
  | [], a => a
  | u :: us, a =>
      let u := trimSpace u
      if hasPrefix u "*@" then
        allowedUsersLoop us { a with allowedDomains := a.allowedDomains ++ [trimPrefix u "*@"] }
      else allowedUsersLoop us { a with allowedUser := a.allowedUser ++ [u] }

/-- The `defaultACL` that `main` builds from `--allowed-users`. -/
def parseAllowedUsers (allowedUsers : String) : DefaultACL :=
  allowedUsersLoop (split allowedUsers ',') ⟨[], []⟩

/-- The service account `defaultACL.Load` names: the base name of
`--service-account-json` without `.json`, or `default` when the flag is empty. -/
def serviceAccount (serviceAccountJSON : String) : String :=
  if serviceAccountJSON ≠ "" then trimSuffix (pathBase serviceAccountJSON) ".json" else "default"

/-- `defaultACL.Load`. -/
def DefaultACL.load (a : DefaultACL) (serviceAccountJSON : String) : ACL :=
  ⟨[⟨"user", gomaClientClientID, a.allowedUser, a.allowedDomains,
    serviceAccount serviceAccountJSON, false⟩]⟩

/-- The ACL that `main` has `aclCheck` install. -/
def proxyACL (allowedUsers serviceAccountJSON : String) : ACL :=
  (parseAllowedUsers allowedUsers).load serviceAccountJSON

/-! ## The entries of `--allowed-users` -/

/-- What an entry of `--allowed-users` lets in: an entry that reads `*@d` once
trimmed, every email ending in `@d`; any other, the email equal to it trimmed. -/
def EntryAdmits (entry email : String) : Prop :=
  (∃ d, trimSpace entry = "*@" ++ d ∧ hasSuffix email ("@" ++ d) = true) ∨
    ((∀ d, trimSpace entry ≠ "*@" ++ d) ∧ email = trimSpace entry)

/-- The tokens the proxy is to answer: those of the goma client's OAuth client
whose email an entry of `--allowed-users` lets in. -/
def Admits (allowedUsers : String) (tokenInfo : TokenInfo) : Prop :=
  tokenInfo.audience = gomaClientClientID ∧
    ∃ entry ∈ split allowedUsers ',', EntryAdmits entry tokenInfo.email

theorem entryAdmits_iff {entry email : String} :
    EntryAdmits entry email ↔
      hasPrefix (trimSpace entry) "*@" = true ∧
          hasSuffix email ("@" ++ trimPrefix (trimSpace entry) "*@") = true ∨
        hasPrefix (trimSpace entry) "*@" = false ∧ email = trimSpace entry := by
  cases starred : hasPrefix (trimSpace entry) "*@" with
  | true =>
      obtain ⟨d, hd⟩ := hasPrefix_iff_exists.mp starred
      simp [EntryAdmits, hd, trimPrefix_append, append_left_cancel_iff]
  | false =>
      have plain : ∀ d, trimSpace entry ≠ "*@" ++ d := fun d hd =>
        absurd (hasPrefix_iff_exists.mpr ⟨d, hd⟩) (by simp [starred])
      simp [EntryAdmits, plain]

instance (entry email : String) : Decidable (EntryAdmits entry email) :=
  decidable_of_iff _ entryAdmits_iff.symm

instance (allowedUsers : String) (tokenInfo : TokenInfo) :
    Decidable (Admits allowedUsers tokenInfo) :=
  inferInstanceAs (Decidable (_ ∧ _))

/-- The loop keeps the trimmed entries in order: the plain ones as users, the
starred ones, cut down to their domains, as domains. -/
theorem allowedUsersLoop_eq (us : List String) (a : DefaultACL) :
    allowedUsersLoop us a =
      ⟨a.allowedUser ++ (us.map trimSpace).filter (fun u => !hasPrefix u "*@"),
        a.allowedDomains ++ ((us.map trimSpace).filter (hasPrefix · "*@")).map (trimPrefix · "*@")⟩ := by
  induction us generalizing a with
  | nil => simp [allowedUsersLoop]
  | cons u us ih =>
      cases starred : hasPrefix (trimSpace u) "*@" <;> simp [allowedUsersLoop, starred, ih]

example : parseAllowedUsers " alice@example.com,\t*@example.org ," =
    ⟨["alice@example.com", ""], ["example.org"]⟩ := by
  decide

/-- The parsed users and domains match an email exactly when an entry lets it in. -/
theorem matchEmail_parseAllowedUsers (allowedUsers email : String) :
    matchEmail email (parseAllowedUsers allowedUsers).allowedUser
        (parseAllowedUsers allowedUsers).allowedDomains = true ↔
      ∃ entry ∈ split allowedUsers ',', EntryAdmits entry email := by
  simp only [matchEmail_iff, parseAllowedUsers, allowedUsersLoop_eq, List.nil_append,
    List.mem_filter, List.mem_map, entryAdmits_iff]
  constructor
  · rintro (⟨⟨entry, mem, rfl⟩, plain⟩ | ⟨d, ⟨u, ⟨⟨entry, mem, rfl⟩, starred⟩, rfl⟩, suffix⟩)
    · exact ⟨entry, mem, .inr ⟨by simpa using plain, rfl⟩⟩
    · exact ⟨entry, mem, .inl ⟨starred, suffix⟩⟩
  · rintro ⟨entry, mem, ⟨starred, suffix⟩ | ⟨plain, rfl⟩⟩
    · exact .inr ⟨_, ⟨_, ⟨⟨entry, mem, rfl⟩, starred⟩, rfl⟩, suffix⟩
    · exact .inl ⟨⟨entry, mem, rfl⟩, by simp [plain]⟩

/-! ## CheckToken over the installed ACL -/

theorem gomaClientClientID_ne_empty : gomaClientClientID ≠ "" := by decide

/-- `FindGroup` over the proxy's ACL finds its one group exactly for the tokens of
the goma client whose email the parsed users and domains match. -/
theorem findGroup_load (a : DefaultACL) (serviceAccountJSON : String) (tokenInfo : TokenInfo) :
    findGroup none tokenInfo (a.load serviceAccountJSON).groups =
      if tokenInfo.audience = gomaClientClientID ∧
          matchEmail tokenInfo.email a.allowedUser a.allowedDomains = true then
        .ok ⟨"user", gomaClientClientID, a.allowedUser, a.allowedDomains,
          serviceAccount serviceAccountJSON, false⟩
      else .error (.noMatchingGroup ("no group for " ++ quote tokenInfo.email ++ " " ++
        quote tokenInfo.audience ++ ": no matching group")) := by
  by_cases aud : tokenInfo.audience = gomaClientClientID <;>
    cases m : matchEmail tokenInfo.email a.allowedUser a.allowedDomains <;>
    simp [findGroup, findGroupFrom, checkGroup, DefaultACL.load, aud, m, gomaClientClientID_ne_empty]

theorem admits_iff (allowedUsers : String) (tokenInfo : TokenInfo) :
    Admits allowedUsers tokenInfo ↔ tokenInfo.audience = gomaClientClientID ∧
      matchEmail tokenInfo.email (parseAllowedUsers allowedUsers).allowedUser
        (parseAllowedUsers allowedUsers).allowedDomains = true := by
  rw [Admits, matchEmail_parseAllowedUsers]

section Installed

variable {Account : Type} (pool : AccountPool Account) (c : Checker Account)
  (allowedUsers serviceAccountJSON : String)

/-- Once `Set` has installed the proxy's ACL, `CheckToken` answers a token the
proxy admits through its one group, and turns away every other. -/
theorem checkToken_installed
    (installed : (c.set pool (proxyACL allowedUsers serviceAccountJSON)).1 = none)
    (ctxErr : Option CtxErr) (token : String) (tokenInfo : TokenInfo) :
    (c.set pool (proxyACL allowedUsers serviceAccountJSON)).2.checkToken pool none ctxErr token
        tokenInfo =
      if Admits allowedUsers tokenInfo then
        answerGroup pool (c.set pool (proxyACL allowedUsers serviceAccountJSON)).2.accounts token
          ⟨"user", gomaClientClientID, (parseAllowedUsers allowedUsers).allowedUser,
            (parseAllowedUsers allowedUsers).allowedDomains, serviceAccount serviceAccountJSON,
            false⟩
      else ("", .error (ctxErr.elim ⟨.permissionDenied, "access rejected"⟩ CtxErr.status)) := by
  unfold Checker.checkToken checkTokenAcross
  rw [(set_ok installed).1, proxyACL, findGroup_load]
  by_cases admitted : Admits allowedUsers tokenInfo
  · rw [if_pos ((admits_iff _ _).mp admitted), if_pos admitted]
  · rw [if_neg (mt (admits_iff _ _).mpr admitted), if_neg admitted]
    cases ctxErr <;> rfl

/-- After `Set` has installed the ACL `main` builds from `--allowed-users` and
`--service-account-json`, whatever the checker held before, a `CheckToken`
without an `AuthDB` turns away every token the proxy does not admit, with the
context's error or `PermissionDenied`; it answers a token it admits as a member of
`user`, with the caller's own token when the service account's name is empty, and
otherwise with the token of the account `Set` stored for the service account,
never missing it. -/
theorem checkToken_proxyACL
    (installed : (c.set pool (proxyACL allowedUsers serviceAccountJSON)).1 = none)
    (ctxErr : Option CtxErr) (token : String) (tokenInfo : TokenInfo) :
    (¬ Admits allowedUsers tokenInfo →
      (c.set pool (proxyACL allowedUsers serviceAccountJSON)).2.checkToken pool none ctxErr token
          tokenInfo =
        ("", .error (ctxErr.elim ⟨.permissionDenied, "access rejected"⟩ CtxErr.status))) ∧
    (Admits allowedUsers tokenInfo →
      (serviceAccount serviceAccountJSON = "" →
        (c.set pool (proxyACL allowedUsers serviceAccountJSON)).2.checkToken pool none ctxErr
          token tokenInfo = ("user", .ok token)) ∧
      (serviceAccount serviceAccountJSON ≠ "" → ∃ acct,
        (c.set pool (proxyACL allowedUsers serviceAccountJSON)).2.accounts.lookup
          (serviceAccount serviceAccountJSON) = some acct ∧
        (c.set pool (proxyACL allowedUsers serviceAccountJSON)).2.checkToken pool none ctxErr
          token tokenInfo = ("user", (pool.token acct).mapError fun err =>
            ⟨.internal, "service account:" ++ serviceAccount serviceAccountJSON ++ " error:" ++
              err⟩))) := by
  rw [checkToken_installed pool c allowedUsers serviceAccountJSON installed]
  refine ⟨fun rejected => if_neg rejected, fun admitted => ?_⟩
  rw [if_pos admitted]
  refine ⟨fun blank => by simp [answerGroup, blank], fun named => ?_⟩
  have backed := (set_ok installed).2 _ (by rw [(set_ok installed).1]; exact .head _) named
  obtain ⟨acct, found⟩ := Finmap.mem_iff.mp backed
  refine ⟨acct, found, ?_⟩
  simp only [answerGroup, named, found, Bool.false_eq_true, if_false]
  cases pool.token acct <;> rfl

/-- With `--allowed-users=alice@example.com, *@example.org` and the key of `robot`,
the proxy installs its ACL from an empty checker, and answers the goma client's
token of a user of `example.org` with the token of `robot`. -/
theorem checkToken_proxyACL_example_org :
    (Checker.empty.set namePool
        (proxyACL "alice@example.com, *@example.org" "/creds/robot.json")).1 = none ∧
    (¬ Admits "alice@example.com, *@example.org" ⟨"bob@example.org", gomaClientClientID⟩ →
      (Checker.empty.set namePool
          (proxyACL "alice@example.com, *@example.org" "/creds/robot.json")).2.checkToken
          namePool none none "token" ⟨"bob@example.org", gomaClientClientID⟩ =
        ("", .error ((none : Option CtxErr).elim ⟨.permissionDenied, "access rejected"⟩
          CtxErr.status))) ∧
    (Admits "alice@example.com, *@example.org" ⟨"bob@example.org", gomaClientClientID⟩ →
      (serviceAccount "/creds/robot.json" = "" →
        (Checker.empty.set namePool
            (proxyACL "alice@example.com, *@example.org" "/creds/robot.json")).2.checkToken
            namePool none none "token" ⟨"bob@example.org", gomaClientClientID⟩ =
          ("user", .ok "token")) ∧
      (serviceAccount "/creds/robot.json" ≠ "" → ∃ acct,
        (Checker.empty.set namePool
            (proxyACL "alice@example.com, *@example.org" "/creds/robot.json")).2.accounts.lookup
          (serviceAccount "/creds/robot.json") = some acct ∧
        (Checker.empty.set namePool
            (proxyACL "alice@example.com, *@example.org" "/creds/robot.json")).2.checkToken
            namePool none none "token" ⟨"bob@example.org", gomaClientClientID⟩ =
          ("user", (namePool.token acct).mapError fun err =>
            ⟨.internal, "service account:" ++ serviceAccount "/creds/robot.json" ++ " error:" ++
              err⟩))) :=
  ⟨by decide, checkToken_proxyACL namePool .empty "alice@example.com, *@example.org"
    "/creds/robot.json" (by decide) none "token" ⟨"bob@example.org", gomaClientClientID⟩⟩

/-- An entry of `--allowed-users` that is empty once trimmed, as a trailing comma
leaves, lets in every token of the goma client that carries no email: `CheckToken`
answers it as a member of `user`, and does not turn it away. -/
theorem checkToken_emptyEntry
    (installed : (c.set pool (proxyACL allowedUsers serviceAccountJSON)).1 = none)
    (empty : ∃ entry ∈ split allowedUsers ',', trimSpace entry = "")
    (ctxErr : Option CtxErr) (token : String) :
    ((c.set pool (proxyACL allowedUsers serviceAccountJSON)).2.checkToken pool none ctxErr token
        ⟨"", gomaClientClientID⟩).1 = "user" ∧
      ((c.set pool (proxyACL allowedUsers serviceAccountJSON)).2.checkToken pool none ctxErr token
        ⟨"", gomaClientClientID⟩).2 ≠ .error ⟨.permissionDenied, "access rejected"⟩ := by
  obtain ⟨entry, mem, blank⟩ := empty
  have plain : ∀ d, trimSpace entry ≠ "*@" ++ d := fun d h => by
    simpa using congrArg String.data (blank.symm.trans h)
  have admitted : Admits allowedUsers ⟨"", gomaClientClientID⟩ :=
    ⟨rfl, entry, mem, .inr ⟨plain, blank.symm⟩⟩
  rw [checkToken_installed pool c allowedUsers serviceAccountJSON installed, if_pos admitted]
  simp only [answerGroup, Bool.false_eq_true, if_false]
  by_cases own : serviceAccount serviceAccountJSON = ""
  · simp [own]
  cases found : (c.set pool (proxyACL allowedUsers serviceAccountJSON)).2.accounts.lookup
      (serviceAccount serviceAccountJSON) with
  | none => simp [own, found, serviceAccountNotFound]
  | some acct => cases minted : pool.token acct <;> simp [own, found, minted]

/-- A trailing comma after `alice@example.com` lets in the goma client's tokens
without an email. -/
theorem checkToken_emptyEntry_trailing_comma :
    (Checker.empty.set namePool (proxyACL "alice@example.com," "")).1 = none ∧
    (∃ entry ∈ split "alice@example.com," ',', trimSpace entry = "") ∧
    ((Checker.empty.set namePool (proxyACL "alice@example.com," "")).2.checkToken namePool none
        none "token" ⟨"", gomaClientClientID⟩).1 = "user" ∧
      ((Checker.empty.set namePool (proxyACL "alice@example.com," "")).2.checkToken namePool none
        none "token" ⟨"", gomaClientClientID⟩).2 ≠ .error ⟨.permissionDenied, "access rejected"⟩ :=
  ⟨by decide, by decide, checkToken_emptyEntry namePool .empty "alice@example.com," "" (by decide)
    (by decide) none "token"⟩

end Installed

end GomaServer.RemoteexecProxy
