import HueLink.InMemory.Step
import HueLink.Json.Writer
import HueLink.Scripted.Scenario
import HueLink.Bench
import HueLink.Proofs.Exchange
import HueLink.Proofs.Registration.Store
import HueLink.Proofs.Session.Slots
import HueLink.Proofs.Routine.Passage
import HueLink.Proofs.Exchange.Ways
import HueLink.Proofs.Pairing.Ways
import HueLink.Proofs.Pairing.Forms
import HueLink.Proofs.Pairing.Lobby
import HueLink.Proofs.Pairing.Credential
import HueLink.Proofs.Session.Passage
import HueLink.Proofs.Session.SceneRecall
import HueLink.Proofs.Pairing.Limits
import HueLink.Proofs.Pairing.Identity
import HueLink.Proofs.Session.FirstSetup
import HueLink.Proofs.Session.SharedService
import HueLink.Proofs.Codec.Domain
import HueLink.Proofs.Session.AllOrNothing
import HueLink.Proofs.Pairing.Announcement
import HueLink.Proofs.Pairing.Agreement
import HueLink.Proofs.Pairing.Discovery
import HueLink.Proofs.Pairing.Retries
import HueLink.Proofs.Routine.Deeds
import HueLink.Proofs.Session.Rejection
import HueLink.Proofs.Session.Chronicle
import HueLink.Proofs.Session.Authorization
import HueLink.Proofs.Session.SceneChoice
import HueLink.Proofs.Registration.Persisting
import HueLink.Proofs.Session.SceneService
import HueLink.Proofs.Session.Teardown
import HueLink.Proofs.Label
import HueLink.Proofs.LegacyCredentials
import HueLink.Proofs.Bridge.Id
import HueLink.Proofs.Routine.Timekeeping
import HueLink.Proofs.InMemory.Course
import HueLink.Proofs.InMemory.Account
import HueLink.Proofs.Routine.Libraries
import HueLink.Proofs.Session.EarlyUse
