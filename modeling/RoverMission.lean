import RoverMission.Main
import RoverMission.Interchange
import RoverMission.Files
import RoverMission.Environment
import RoverMission.Rover
import RoverMission.Mission.Printer
import RoverMission.Config.Printer
import RoverMission.Proofs.Ground
import RoverMission.Proofs.Driving
import RoverMission.Proofs.Policies
import RoverMission.Proofs.Torus
import RoverMission.Proofs.Attempts
import RoverMission.Proofs.ErrorModes
import RoverMission.Proofs.Containment
import RoverMission.Proofs.RoundTrip
import RoverMission.Proofs.Room
import RoverMission.Proofs.AllOrNothing
import RoverMission.Proofs.Formats
import RoverMission.Proofs.Exits
import RoverMission.Proofs.LastWins
import RoverMission.Proofs.Defaults
import RoverMission.Proofs.Corners
import RoverMission.Proofs.Logging
import RoverMission.Proofs.Resuming
import RoverMission.Proofs.Diagnosis
import RoverMission.Proofs.Clamping
import RoverMission.Proofs.Skipping
import RoverMission.Proofs.Pictures
import RoverMission.Proofs.Retracing
import RoverMission.Proofs.FirstFault
import RoverMission.Proofs.Relayout
import RoverMission.Proofs.ConfigFiles
import RoverMission.Proofs.TorusStep
import RoverMission.Proofs.Transcript
import RoverMission.Proofs.OperatorLines
import RoverMission.Proofs.Forms
import RoverMission.Proofs.Exchange
