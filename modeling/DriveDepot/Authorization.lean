import DriveDepot.Json.Access
import DriveDepot.Operation

namespace DriveDepot.Authorization

open Operation

def setGranted (token : Option String) : Operation Unit := modify ({ · with granted := token })

/-- Begins the authorization of a client. -/
def start (client : Client) : Operation Unit := do
  let _ ← perform (.openFlow client) (pure .null)
  setGranted none

/-- The address where access is granted. The answer tells it together with a state. -/
def url : Operation Json := do
  let url := (← get).grant.url
  let answer ← perform .authorizationUrl (pure (.array [.string url, .string "state"]))
  return (← ofMishap answer.pair).1

/-- Exchanges a code. What it brings is the granted token. -/
def exchange (code : String) : Operation Unit := do
  let _ ← perform (.fetchToken code) do
    setGranted (← get).grant.refreshToken
    return .null

/-- Exchanges the code for a token. -/
def token (code : String) : Operation String := do
  onAnyError (exchange code) fun failure => do
    let reported := StorageError.tokenRequestFailed failure.message
    error reported.message
    throw (failure.wrap reported)
  match (← get).granted with
  | none | some "" => storageError .noRefreshToken
  | some token => return token

end DriveDepot.Authorization
