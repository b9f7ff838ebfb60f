import LinkAdaptation.Settings.Basic
import LinkAdaptation.Station.Metrics
import LinkAdaptation.Json.Reading
import LinkAdaptation.Proofs.Binary64.Order
import LinkAdaptation.Proofs.Binary64.Subtraction
import LinkAdaptation.Proofs.Attempts
import LinkAdaptation.Proofs.Control.Cache
import LinkAdaptation.Proofs.Control.ErrorBound
import LinkAdaptation.Proofs.Control.Safety
import LinkAdaptation.Proofs.Station.Listing
import LinkAdaptation.Proofs.Control.Directory
import LinkAdaptation.Proofs.Control.Coherence
import LinkAdaptation.Proofs.Control.Turn
import LinkAdaptation.Proofs.Control.Announcements
import LinkAdaptation.Proofs.Control.Isolation
import LinkAdaptation.Proofs.Control.Terms
import LinkAdaptation.Proofs.Control.Accounts
import LinkAdaptation.Proofs.Control.Silence
import LinkAdaptation.Proofs.Snr.Bisection
import LinkAdaptation.Proofs.Snr.Table
import LinkAdaptation.Proofs.Control.Conditions
import LinkAdaptation.Proofs.Control.Protection
import LinkAdaptation.Proofs.Station.Spelling
import LinkAdaptation.Proofs.Snr.Relisting
import LinkAdaptation.Proofs.Snr.Enumeration
import LinkAdaptation.Proofs.Control.Lockstep
import LinkAdaptation.Proofs.Control.Relisting
import LinkAdaptation.Proofs.Json.Strings
import LinkAdaptation.Proofs.Station.Rendering
import LinkAdaptation.Proofs.Phy.Arithmetic
import LinkAdaptation.Proofs.Settings.Names
import LinkAdaptation.Proofs.Settings.Resolution
import LinkAdaptation.Proofs.Settings.Setup
import LinkAdaptation.Proofs.Control.StepSearch
import LinkAdaptation.Proofs.Snr.Awgn
import LinkAdaptation.Proofs.Station.Scraping
import LinkAdaptation.Proofs.Station.Samples
import LinkAdaptation.Proofs.Control.Exposition
import LinkAdaptation.Proofs.Json.RoundTrip
import LinkAdaptation.Proofs.Station.Reports
