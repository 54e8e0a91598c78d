import StayKey.Door.LockTheorems
import StayKey.Store.NoDoubleBooking
import StayKey.Store.Atomicity
import StayKey.Store.Status
import StayKey.Store.Occupancy
import StayKey.Store.Revocation
import StayKey.Store.Runs
import StayKey.Store.Booking
import StayKey.Store.KeyRows
import StayKey.Store.Independence
import StayKey.Store.DoubleAssign
import StayKey.Store.Serial
import StayKey.Store.RevocationList
import StayKey.Service.ConnectedTheorems
import StayKey.Service.Lifecycle
import StayKey.Service.UnlockAgreement
import StayKey.Service.Permanence
import StayKey.Service.Scope
import StayKey.Service.EarlyKeys
import StayKey.Service.Snapshots
import StayKey.Service.ChallengeRace
import StayKey.Door.TokenRoundTrip
import StayKey.Door.TokenGrammar
import StayKey.Door.Availability
import StayKey.Service.FailedRequests
import StayKey.Service.Endpoints
import StayKey.Service.UsableKeys
import StayKey.Service.RollingTtl
import StayKey.Service.RevocationSync
import StayKey.Service.Http
import StayKey.Service.AfterCrash
import StayKey.Service.CrashedCheckout
import StayKey.Service.Secrecy
import StayKey.Service.LetInAgain
import StayKey.Service.LockRefinement
import StayKey.Service.Hindsight
