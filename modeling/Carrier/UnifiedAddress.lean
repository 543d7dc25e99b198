import Carrier.Address
import Carrier.LruCache

/-! `ToUnifiedAddress` of `network/address.go` as a normal form, with the lookup cache
that `ToUnifiedHost` goes through. Results are used as registry keys and to drop
duplicates, so two addresses of one place should have one result. The host of a literal
address is passed on as it is spelled, and only a looked-up `::1` is replaced. -/
namespace Carrier.UnifiedAddress

open GoRuntime TransitionSystem Address LruCache

variable (resolver : Resolver)

/-! The lookup cache. -/

def errStrNoAvailableAddresses : String := "address: no available addresses"

def lookUp (host : String) : Except String String :=
  match toUnifiedHost resolver host with
  | some unified => .ok unified
  | none => .error errStrNoAvailableAddresses

def cachedHost (cache : Cache String) (host : String) : Outcome (Option String × Cache String) :=
  (cache.get host (lookUp resolver host)).map fun (found, cache) => (found.1.toOption, cache)

def cachedAddress (cache : Cache String) (address : String) : Outcome (Option String × Cache String) :=
  let address := resolver.trimSpace address
  if address = "" then .done (none, cache)
  else match parseAddress resolver address with
    | none => .done (none, cache)
    | some info =>
        (cachedHost resolver cache info.host).map fun (host, cache) =>
          (host.map fun host => { info with host := host }.string resolver, cache)

def LooksUp (cache : Cache String) (host : String) (next : Cache String) : Prop :=
  ∃ result, cachedHost resolver cache host = .done (result, next)

def Unifies (address : String) (result : Option String) : Prop :=
  ∃ hosts cache next, Run (LooksUp resolver) (newCache 1000) hosts cache ∧
    cachedAddress resolver cache address = .done (result, next)

section Cached

variable {resolver} {cache next : Cache String}

/-- What is cached is what a lookup would give again. -/
structure Faithful (resolver : Resolver) (cache : Cache String) : Prop where
  inv : LruCache.Inv cache
  limit : cache.limit = 1000
  values : ∀ host item, cache.items host = some item → toUnifiedHost resolver host = some item.value

theorem lookUp_toOption (host : String) : (lookUp resolver host).toOption = toUnifiedHost resolver host := by
  unfold lookUp
  split
  · rename_i unified found
    exact found.symm
  · rename_i missing
    exact missing.symm

theorem roomy_values {roomy : Cache String} (room : Roomy cache roomy) (faithful : Faithful resolver cache)
    {host : String} {item : CacheItem String} (found : roomy.items host = some item) :
    toUnifiedHost resolver host = some item.value := by
  cases room with
  | asIs _ => exact faithful.values host item found
  | evicted _ _ =>
      simp only [Function.update_apply] at found
      split at found
      · cases found
      · exact faithful.values host item found

/-- With a faithful cache a host is answered as without one, and the cache stays faithful. -/
theorem cachedHost_eq (faithful : Faithful resolver cache) (host : String) :
    ∃ next, cachedHost resolver cache host = .done (toUnifiedHost resolver host, next) ∧
      Faithful resolver next := by
  have positive : 1 ≤ cache.limit := by rw [faithful.limit]; decide
  obtain ⟨result, next, got, inv, limit⟩ := get_inv faithful.inv positive host (lookUp resolver host)
  cases found : cache.items host with
  | some item =>
      obtain ⟨_, before, after, _, hit⟩ := get_hit faithful.inv found (lookUp resolver host)
      rw [hit] at got
      cases got
      refine ⟨_, ?_, ⟨inv, limit.trans faithful.limit, faithful.values⟩⟩
      rw [cachedHost, hit, Outcome.done_map, faithful.values host item found]
      rfl
  | none =>
      obtain ⟨roomy, room, missed⟩ := get_absent positive found (lookUp resolver host)
      rw [missed] at got
      have answer := @lookUp_toOption resolver host
      cases looked : lookUp resolver host with
      | error err =>
          rw [looked] at got answer missed
          cases got
          refine ⟨_, ?_, ⟨inv, limit.trans faithful.limit, fun _ _ => roomy_values room faithful⟩⟩
          rw [cachedHost, looked, missed, Outcome.done_map, ← answer]
      | ok value =>
          rw [looked] at got answer missed
          cases got
          refine ⟨_, by rw [cachedHost, looked, missed, Outcome.done_map, ← answer], ⟨inv,
            limit.trans faithful.limit, fun other item cached => ?_⟩⟩
          simp only [Cache.pushFront, Function.update_apply] at cached
          split at cached
          · rename_i same
            cases cached
            rw [same, ← answer]
            rfl
          · exact roomy_values room faithful cached

theorem reached_faithful {hosts : List String} (run : Run (LooksUp resolver) (newCache 1000) hosts cache) :
    Faithful resolver cache := by
  refine run.invariant (Faithful resolver) ?_ ⟨newCache_inv (by decide), rfl, fun _ _ cached => nomatch cached⟩
  rintro before host after ⟨result, got⟩ faithful
  obtain ⟨other, again, kept⟩ := cachedHost_eq faithful host
  cases got.symm.trans again
  exact kept

theorem cachedAddress_eq (faithful : Faithful resolver cache) (address : String) :
    ∃ next, cachedAddress resolver cache address = .done (toUnifiedAddress resolver address, next) := by
  simp only [cachedAddress, toUnifiedAddress]
  split
  · exact ⟨cache, rfl⟩
  · cases parsed : parseAddress resolver (resolver.trimSpace address) with
    | none => exact ⟨cache, rfl⟩
    | some info =>
        obtain ⟨next, answered, _⟩ := cachedHost_eq faithful info.host
        refine ⟨next, ?_⟩
        simp only [answered, Outcome.done_map]
        cases unified : toUnifiedHost resolver info.host with
        | none => simp [unified]
        | some host => simp [unified]

theorem unifies_iff (address : String) (result : Option String) :
    Unifies resolver address result ↔ toUnifiedAddress resolver address = result := by
  constructor
  · rintro ⟨hosts, cache, next, run, answered⟩
    obtain ⟨other, again⟩ := cachedAddress_eq (reached_faithful run) address
    rw [again] at answered
    cases answered
    rfl
  · rintro rfl
    have fresh : Run (LooksUp resolver) (newCache 1000) [] (newCache 1000) := .nil _
    obtain ⟨next, answered⟩ := cachedAddress_eq (reached_faithful fresh) address
    exact ⟨[], newCache 1000, next, fresh, answered⟩

end Cached

/-! Hosts as names of IP addresses. -/

/-- `net.ParseIP` and the resolver as functions to IP addresses: a text that `ParseIP`
takes denotes one, and the two loopback addresses differ. A text with a zone denotes an
address too, and `ParseIP` refuses it. -/
structure Naming (resolver : Resolver) (IP : Type) where
  address : String → Option IP
  parses : ∀ host, resolver.parseIP host = true → (address host).isSome
  loopback : resolver.parseIP "127.0.0.1" = true
  apart : address "127.0.0.1" ≠ address "::1"

/-- The text that stands for the address of a host: the host itself if it is a literal,
the first answer of the resolver if it is a name. -/
def spelling (host : String) : Option String :=
  if resolver.parseIP host then some host else (resolver.lookupHost host).bind List.head?

def Naming.denotes {resolver : Resolver} {IP : Type} (naming : Naming resolver IP) (host : String) : Option IP :=
  (spelling resolver host).bind naming.address

def Accepted (host : String) : Prop := (spelling resolver host).all resolver.parseIP = true

/-- The two hosts have one spelling, and if that is `::1` then both are names or neither. -/
def SpelledAlike (left right : String) : Prop :=
  spelling resolver left = spelling resolver right ∧
    (spelling resolver left = some "::1" → resolver.parseIP left = resolver.parseIP right)

/-- What the Go library promises about the texts that are made of a parsed address with
an IP address for its host. `JoinHostPort` tells hosts apart; behind a scheme the text
is read back as it was made; without a scheme it is no URL with a host. -/
structure TextLaws (resolver : Resolver) : Prop where
  join_injective : ∀ left right port,
    resolver.joinHostPort left port = resolver.joinHostPort right port → left = right
  reads : ∀ address info host, parseAddress resolver address = some info → info.protocol ≠ "" →
    resolver.parseIP host = true →
    resolver.trimSpace ({ info with host := host }.string resolver) = { info with host := host }.string resolver ∧
      { info with host := host }.string resolver ≠ "" ∧
      parseAddress resolver ({ info with host := host }.string resolver) = some { info with host := host }
  bare : ∀ address info host, parseAddress resolver address = some info → info.protocol = "" →
    resolver.parseIP host = true →
    parseAddress resolver (resolver.trimSpace ({ info with host := host }.string resolver)) = none

section Canonical

variable {resolver} {IP : Type}

theorem toUnifiedHost_literal {host : String} (literal : resolver.parseIP host = true) :
    toUnifiedHost resolver host = some host := by
  simp [toUnifiedHost, literal]

/-- A looked-up loopback address is the only spelling that is changed. -/
theorem toUnifiedHost_spelling {host unified : String} (found : toUnifiedHost resolver host = some unified) :
    ∃ text, spelling resolver host = some text ∧
      unified = if resolver.parseIP host = false ∧ text = "::1" then "127.0.0.1" else text := by
  cases literal : resolver.parseIP host with
  | true =>
      rw [toUnifiedHost_literal literal] at found
      cases found
      exact ⟨host, by simp [spelling, literal], by simp⟩
  | false =>
      simp only [toUnifiedHost, literal, Bool.false_eq_true, ↓reduceIte] at found
      split at found
      · cases found
      · cases found
      · rename_i first rest looked
        cases found
        exact ⟨first, by simp [spelling, literal, looked], by simp⟩

theorem toUnifiedHost_isLiteral (naming : Naming resolver IP) {host unified : String}
    (accepted : Accepted resolver host) (found : toUnifiedHost resolver host = some unified) :
    resolver.parseIP unified = true := by
  obtain ⟨text, spelled, rfl⟩ := toUnifiedHost_spelling found
  split
  · exact naming.loopback
  · simpa [Accepted, spelled] using accepted

/-- For hosts of one address: the results agree exactly if the spellings do. -/
theorem toUnifiedHost_eq_iff (naming : Naming resolver IP) {left right first second : String}
    (leftFound : toUnifiedHost resolver left = some first)
    (rightFound : toUnifiedHost resolver right = some second)
    (same : naming.denotes left = naming.denotes right) :
    first = second ↔ SpelledAlike resolver left right := by
  obtain ⟨leftText, leftSpelled, rfl⟩ := toUnifiedHost_spelling leftFound
  obtain ⟨rightText, rightSpelled, rfl⟩ := toUnifiedHost_spelling rightFound
  simp only [Naming.denotes, leftSpelled, rightSpelled, Option.bind_some] at same
  have apart := naming.apart
  simp only [SpelledAlike, leftSpelled, rightSpelled, Option.some.injEq]
  -- A looked-up loopback address and a spelling of `127.0.0.1` would denote one address.
  by_cases leftChanged : resolver.parseIP left = false ∧ leftText = "::1"
  · by_cases rightChanged : resolver.parseIP right = false ∧ rightText = "::1"
    · simp [leftChanged, rightChanged]
    · rw [if_pos leftChanged, if_neg rightChanged]
      constructor
      · rintro rfl
        exact absurd (leftChanged.2 ▸ same).symm apart
      · rintro ⟨rfl, kinds⟩
        exact absurd ⟨(kinds leftChanged.2).symm.trans leftChanged.1, leftChanged.2⟩ rightChanged
  · by_cases rightChanged : resolver.parseIP right = false ∧ rightText = "::1"
    · rw [if_neg leftChanged, if_pos rightChanged]
      constructor
      · rintro rfl
        exact absurd (rightChanged.2 ▸ same) apart
      · rintro ⟨rfl, kinds⟩
        exact absurd ⟨(kinds rightChanged.2).trans rightChanged.1, rightChanged.2⟩ leftChanged
    · rw [if_neg leftChanged, if_neg rightChanged]
      refine ⟨fun texts => ⟨texts, fun loopback => ?_⟩, And.left⟩
      have leftLiteral : resolver.parseIP left ≠ false := fun name => leftChanged ⟨name, loopback⟩
      have rightLiteral : resolver.parseIP right ≠ false := fun name => rightChanged ⟨name, texts ▸ loopback⟩
      rw [eq_true_of_ne_false leftLiteral, eq_true_of_ne_false rightLiteral]

theorem toUnifiedAddress_eq_some {address result : String} {info : AddressInfo}
    (unified : toUnifiedAddress resolver address = some result)
    (parsed : parseAddress resolver (resolver.trimSpace address) = some info) :
    ∃ host, toUnifiedHost resolver info.host = some host ∧
      result = { info with host := host }.string resolver := by
  simp only [toUnifiedAddress] at unified
  split at unified
  · cases unified
  · obtain ⟨other, again, made⟩ := Option.bind_eq_some_iff.mp unified
    cases parsed.symm.trans again
    obtain ⟨host, found, text⟩ := Option.bind_eq_some_iff.mp made
    exact ⟨host, found, (Option.some.inj text).symm⟩

theorem string_inj (laws : TextLaws resolver) {info : AddressInfo} {left right : String} :
    { info with host := left }.string resolver = { info with host := right }.string resolver ↔ left = right := by
  refine ⟨fun same => ?_, fun same => by rw [same]⟩
  simp only [AddressInfo.string, AddressInfo.hostPort] at same
  split at same
  · exact laws.join_injective left right _ same
  · exact laws.join_injective left right _ (String.append_right_inj _ |>.mp same)

/-- A result is a result of itself exactly if the address has a scheme. -/
theorem toUnifiedAddress_again_iff (laws : TextLaws resolver) {address host : String} {info : AddressInfo}
    (parsed : parseAddress resolver address = some info) (literal : resolver.parseIP host = true) :
    toUnifiedAddress resolver ({ info with host := host }.string resolver) =
        some ({ info with host := host }.string resolver) ↔ info.protocol ≠ "" := by
  by_cases scheme : info.protocol = ""
  · have unread := laws.bare address info host parsed scheme literal
    have refused : toUnifiedAddress resolver ({ info with host := host }.string resolver) = none := by
      simp [toUnifiedAddress, unread]
    rw [refused]
    exact iff_of_false (fun impossible => nomatch impossible) (not_not.mpr scheme)
  · obtain ⟨trimmed, nonempty, read⟩ := laws.reads address info host parsed scheme literal
    have again := toUnifiedHost_literal literal
    simp [toUnifiedAddress, trimmed, nonempty, read, again, scheme]

/-- For two accepted addresses of one protocol, port and IP address, whose hosts are
spelled without a zone: the results are one text and stay what they are exactly if there
is a scheme and the hosts are spelled alike. -/
theorem unified_canonical_iff (laws : TextLaws resolver) (naming : Naming resolver IP)
    {left right leftResult rightResult : String} {leftInfo rightInfo : AddressInfo}
    (leftUnified : Unifies resolver left (some leftResult))
    (rightUnified : Unifies resolver right (some rightResult))
    (leftParsed : parseAddress resolver (resolver.trimSpace left) = some leftInfo)
    (rightParsed : parseAddress resolver (resolver.trimSpace right) = some rightInfo)
    (protocol : leftInfo.protocol = rightInfo.protocol) (port : leftInfo.port = rightInfo.port)
    (same : naming.denotes leftInfo.host = naming.denotes rightInfo.host)
    (leftAccepted : Accepted resolver leftInfo.host) (rightAccepted : Accepted resolver rightInfo.host) :
    (leftResult = rightResult ∧ Unifies resolver leftResult (some leftResult) ∧
        Unifies resolver rightResult (some rightResult)) ↔
      leftInfo.protocol ≠ "" ∧ SpelledAlike resolver leftInfo.host rightInfo.host := by
  rw [unifies_iff] at leftUnified rightUnified
  obtain ⟨leftHost, leftFound, rfl⟩ := toUnifiedAddress_eq_some leftUnified leftParsed
  obtain ⟨rightHost, rightFound, rfl⟩ := toUnifiedAddress_eq_some rightUnified rightParsed
  have leftAgain := toUnifiedAddress_again_iff laws leftParsed
    (toUnifiedHost_isLiteral naming leftAccepted leftFound)
  have rightAgain := toUnifiedAddress_again_iff laws rightParsed
    (toUnifiedHost_isLiteral naming rightAccepted rightFound)
  rw [unifies_iff, unifies_iff, leftAgain, rightAgain, ← protocol, and_self, and_comm]
  refine and_congr_right fun _ => ?_
  rw [← port, string_inj laws, toUnifiedHost_eq_iff naming leftFound rightFound same]

end Canonical

/-! A resolver that knows the loopback addresses in three spellings and two names, and an
address with a zone. -/

/-- `net.JoinHostPort`. -/
def joinHostPort (host port : String) : String :=
  if ':' ∈ host.toList then "[" ++ host ++ "]:" ++ port else host ++ ":" ++ port

theorem joinHostPort_injective {left right port : String}
    (same : joinHostPort left port = joinHostPort right port) : left = right := by
  have lists := congrArg String.toList same
  -- Only a host with a colon is put in brackets, so brackets around one host are none of the other.
  have mixed : ∀ inner outer : List Char, ':' ∈ inner → ':' ∉ outer →
      ('[' :: (inner ++ [']'])) ++ (':' :: port.toList) ≠ outer ++ ':' :: port.toList := by
    intro inner outer colon plain equal
    have brackets := List.append_cancel_right equal
    exact plain (by rw [← brackets]; simp [colon])
  unfold joinHostPort at lists
  split at lists
  · rename_i leftColon
    split at lists
    · exact String.toList_inj.mp (by simpa using lists)
    · rename_i rightPlain
      exact absurd (by simpa using lists) (mixed left.toList right.toList leftColon rightPlain)
  · rename_i leftPlain
    split at lists
    · rename_i rightColon
      exact absurd (by simpa using lists.symm) (mixed right.toList left.toList rightColon leftPlain)
    · exact String.toList_inj.mp (by simpa using lists)

def loopbackIP (host : String) : Option Nat :=
  if host = "127.0.0.1" then some 0x7f000001
  else if host = "::1" then some 1
  else if host = "0:0:0:0:0:0:0:1" then some 1
  else none

def zoned : String := "fe80::1%en0"

def loopbackResolver : Resolver where
  trimSpace address := address
  urlParse address :=
    if address = "tcp://127.0.0.1:80" then some ("tcp", "127.0.0.1:80")
    else if address = "tcp://[::1]:80" then some ("tcp", "[::1]:80")
    else if address = "tcp://[0:0:0:0:0:0:0:1]:80" then some ("tcp", "[0:0:0:0:0:0:0:1]:80")
    else if address = "tcp://localhost:80" then some ("tcp", "localhost:80")
    else if address = "tcp://node:80" then some ("tcp", "node:80")
    else if address = "//127.0.0.1:80" then some ("", "127.0.0.1:80")
    else if address = "tcp://[fe80::1%25en0]:80" then some ("tcp", "[fe80::1%en0]:80")
    else none
  splitHostPort host :=
    if host = "127.0.0.1:80" then some ("127.0.0.1", "80")
    else if host = "[::1]:80" then some ("::1", "80")
    else if host = "[0:0:0:0:0:0:0:1]:80" then some ("0:0:0:0:0:0:0:1", "80")
    else if host = "localhost:80" then some ("localhost", "80")
    else if host = "node:80" then some ("node", "80")
    else if host = "[fe80::1%en0]:80" then some (zoned, "80")
    else none
  joinHostPort := joinHostPort
  parseUint16 port := if port = "80" then some 80 else none
  parseIP host := (loopbackIP host).isSome
  lookupHost host :=
    if host = "localhost" then some ["::1"]
    else if host = "node" then some ["127.0.0.1"]
    -- a literal with a zone is answered by itself
    else if host = zoned then some [zoned]
    else none

theorem loopback_literal {host : String} (literal : loopbackResolver.parseIP host = true) :
    host = "127.0.0.1" ∨ host = "::1" ∨ host = "0:0:0:0:0:0:0:1" := by
  simp only [loopbackResolver, loopbackIP] at literal
  split at literal
  · exact Or.inl ‹_›
  · split at literal
    · exact Or.inr (Or.inl ‹_›)
    · split at literal
      · exact Or.inr (Or.inr ‹_›)
      · cases literal

theorem loopback_parsed {address : String} {info : AddressInfo}
    (parsed : parseAddress loopbackResolver address = some info) :
    (info.protocol = "tcp" ∨ info.protocol = "") ∧ info.port = 80 := by
  obtain ⟨⟨scheme, urlHost⟩, url, rest⟩ := Option.bind_eq_some_iff.mp parsed
  obtain ⟨⟨host, rawPort⟩, _, rest⟩ := Option.bind_eq_some_iff.mp rest
  obtain ⟨port, number, made⟩ := Option.bind_eq_some_iff.mp rest
  cases made
  constructor
  · simp only [loopbackResolver] at url
    split_ifs at url <;> cases url <;> simp
  · simp only [loopbackResolver] at number
    split at number
    · exact (Option.some.inj number).symm
    · cases number

theorem loopback_laws : TextLaws loopbackResolver where
  join_injective := fun _ _ _ => joinHostPort_injective
  reads := by
    rintro address ⟨protocol, old, port⟩ host parsed scheme literal
    obtain ⟨tcp | none, rfl⟩ := loopback_parsed parsed
    · obtain rfl : protocol = "tcp" := tcp
      dsimp only
      rcases loopback_literal literal with rfl | rfl | rfl <;> decide
    · exact absurd none scheme
  bare := by
    rintro address ⟨protocol, old, port⟩ host parsed none literal
    obtain ⟨_, rfl⟩ := loopback_parsed parsed
    obtain rfl : protocol = "" := none
    dsimp only
    rcases loopback_literal literal with rfl | rfl | rfl <;> decide

def loopbackNaming : Naming loopbackResolver Nat where
  address host := if host = zoned then some 0xfe800000000000000000000000000001 else loopbackIP host
  parses host literal := by
    rcases loopback_literal literal with rfl | rfl | rfl <;> decide
  loopback := by decide
  apart := by decide

/-- A literal address and a name that is looked up as the same text. -/
theorem unified_canonical_loopback :
    Unifies loopbackResolver "tcp://127.0.0.1:80" (some "tcp://127.0.0.1:80") ∧
      Unifies loopbackResolver "tcp://node:80" (some "tcp://127.0.0.1:80") ∧
      Unifies loopbackResolver "tcp://127.0.0.1:80" (some "tcp://127.0.0.1:80") := by
  have literal : Unifies loopbackResolver "tcp://127.0.0.1:80" (some "tcp://127.0.0.1:80") :=
    (unifies_iff _ _).mpr (by decide)
  have named : Unifies loopbackResolver "tcp://node:80" (some "tcp://127.0.0.1:80") :=
    (unifies_iff _ _).mpr (by decide)
  have literalParsed : parseAddress loopbackResolver (loopbackResolver.trimSpace "tcp://127.0.0.1:80") =
      some ⟨"tcp", "127.0.0.1", 80⟩ := by decide
  have namedParsed : parseAddress loopbackResolver (loopbackResolver.trimSpace "tcp://node:80") =
      some ⟨"tcp", "node", 80⟩ := by decide
  have canonical := (unified_canonical_iff loopback_laws loopbackNaming literal named literalParsed namedParsed
    rfl rfl (by decide) rfl rfl).mpr ⟨by decide, by decide, by decide⟩
  exact ⟨literal, named, canonical.2.1⟩

/-- Two spellings of one address and a name for it have three results, and the results
for an address without a scheme and for one with a zone are not accepted again. -/
theorem unified_three_results :
    Unifies loopbackResolver "tcp://[::1]:80" (some "tcp://[::1]:80") ∧
      Unifies loopbackResolver "tcp://[0:0:0:0:0:0:0:1]:80" (some "tcp://[0:0:0:0:0:0:0:1]:80") ∧
      Unifies loopbackResolver "tcp://localhost:80" (some "tcp://127.0.0.1:80") ∧
      loopbackNaming.denotes "::1" = loopbackNaming.denotes "0:0:0:0:0:0:0:1" ∧
      loopbackNaming.denotes "::1" = loopbackNaming.denotes "localhost" ∧
      Unifies loopbackResolver "//127.0.0.1:80" (some "127.0.0.1:80") ∧
      Unifies loopbackResolver "127.0.0.1:80" none ∧
      Unifies loopbackResolver "tcp://[fe80::1%25en0]:80" (some "tcp://[fe80::1%en0]:80") ∧
      Unifies loopbackResolver "tcp://[fe80::1%en0]:80" none := by
  simp only [unifies_iff]
  decide

end Carrier.UnifiedAddress
