import FaultyFlash.Draws
import FaultyFlash.Session.Interactive
import FaultyFlash.Session.Planned
import FaultyFlash.Store.Plain
import FaultyFlash.Proofs.Coupling
import FaultyFlash.Proofs.Lockstep
import FaultyFlash.Proofs.Sharing.Devices
import FaultyFlash.Proofs.Sharing.Benches
import FaultyFlash.Proofs.Likeness
import FaultyFlash.Proofs.Twins
import FaultyFlash.Proofs.Benches
import FaultyFlash.Proofs.Bystanders
import FaultyFlash.Proofs.Sharing.Isolation
import FaultyFlash.Proofs.Soundness
import FaultyFlash.Proofs.Alone
import FaultyFlash.Proofs.Tracking
import FaultyFlash.Proofs.SoundBenches
import FaultyFlash.Proofs.Sharing.Sound
import FaultyFlash.Proofs.Powered
import FaultyFlash.Proofs.Resumption.Traceless
import FaultyFlash.Proofs.Scenario.Losses
import FaultyFlash.Proofs.Scenario.Bodies
import FaultyFlash.Proofs.Scenario.Trails
import FaultyFlash.Proofs.Scenario.Layers
import FaultyFlash.Proofs.Scenario.Replays
import FaultyFlash.Proofs.Guards
import FaultyFlash.Proofs.Sharing.Scenarios
import FaultyFlash.Proofs.Scenario.Enumeration
import FaultyFlash.Proofs.Frames
import FaultyFlash.Proofs.Landing
import FaultyFlash.Proofs.Containment.Histories
import FaultyFlash.Proofs.Containment.OutOfOrder
import FaultyFlash.Proofs.Stability
import FaultyFlash.Proofs.Scenario.Breaks
import FaultyFlash.Proofs.Scenario.Tellings
import FaultyFlash.Proofs.Upkeep
import FaultyFlash.Proofs.Scenario.Journals
import FaultyFlash.Proofs.Scenario.Schedules
import FaultyFlash.Proofs.Scenario.Tame
import FaultyFlash.Proofs.Scenario.Ends
import FaultyFlash.Proofs.Scenario.Failures
import FaultyFlash.Proofs.PingPong.Records
import FaultyFlash.Proofs.PingPong.Recount
import FaultyFlash.Proofs.PingPong.Courses
import FaultyFlash.Proofs.PingPong.Counting
import FaultyFlash.Proofs.PingPong.Trails
import FaultyFlash.Proofs.PingPong.Rollback
import FaultyFlash.Proofs.PingPong.Progress
import FaultyFlash.Proofs.Imaging.Devices
import FaultyFlash.Proofs.Probes
import FaultyFlash.Proofs.Imaging.Benches
import FaultyFlash.Proofs.Imaging.Scenarios
import FaultyFlash.Proofs.Sharing.Places
import FaultyFlash.Proofs.Sharing.Counts
import FaultyFlash.Proofs.Flat.Reference
import FaultyFlash.Proofs.Flat.Devices
import FaultyFlash.Proofs.Flat.Trials
import FaultyFlash.Proofs.Resumption.SyncPoints
import FaultyFlash.Proofs.Unattended
import FaultyFlash.Proofs.Bits
import FaultyFlash.Proofs.Scenario.Handover
import FaultyFlash.Proofs.Containment.Aborted
import FaultyFlash.Proofs.Transcripts
import FaultyFlash.Proofs.Scenario.Bounds
import FaultyFlash.Proofs.Renaming.Devices
import FaultyFlash.Proofs.Renaming.Benches
import FaultyFlash.Proofs.Resumption.Calls
import FaultyFlash.Proofs.Completion
import FaultyFlash.Proofs.Countdown.Silenced
import FaultyFlash.Proofs.Countdown.Expiry
import FaultyFlash.Proofs.Outcomes.Contracts
import FaultyFlash.Proofs.Outcomes.Requests
import FaultyFlash.Proofs.Outcomes.Resumed
import FaultyFlash.Proofs.Outcomes.Stored
import FaultyFlash.Proofs.Pins.Blocks
import FaultyFlash.Proofs.Pins.Devices
import FaultyFlash.Proofs.Pins.Benches
import FaultyFlash.Proofs.Pins.Standing
import FaultyFlash.Proofs.Reads.Sensing
import FaultyFlash.Proofs.Reads.Pieces
import FaultyFlash.Proofs.Wear.Blocks
import FaultyFlash.Proofs.Wear.Devices
import FaultyFlash.Proofs.Wear.Benches
import FaultyFlash.Proofs.Wear.Counting
import FaultyFlash.Proofs.PingPong.Torn
import FaultyFlash.Proofs.Fingerprint.Checksums
import FaultyFlash.Proofs.Fingerprint.Devices
import FaultyFlash.Proofs.Draws.Streams
import FaultyFlash.Proofs.Draws.Orbits
import FaultyFlash.Proofs.Outcomes.Unbroken
import FaultyFlash.Proofs.Strict.Agreement
import FaultyFlash.Proofs.Strict.Blocks
import FaultyFlash.Proofs.Strict.Devices
import FaultyFlash.Proofs.Strict.Exact
import FaultyFlash.Proofs.Strict.Sized
import FaultyFlash.Proofs.Strict.Benches
import FaultyFlash.Proofs.Strict.Represented
