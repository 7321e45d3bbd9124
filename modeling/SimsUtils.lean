import SimsUtils.Python
import SimsUtils.ModifiedJulianDate
import SimsUtils.Numpy
import SimsUtils.ObservationMetaData.Basic
import SimsUtils.ObservationMetaData.Mutators
import SimsUtils.ObservationMetaData.Bounds
import SimsUtils.ObservationMetaData.Atomicity
import SimsUtils.ObservationMetaData.PhoSim
import SimsUtils.ObservationMetaData.Bandpass
import SimsUtils.ObservationMetaData.Summary
import SimsUtils.ObservationMetaData.Runs
import SimsUtils.ObservationMetaData.Setters
import SimsUtils.Astrometry.Palpy
import SimsUtils.Astrometry.Pipeline
import SimsUtils.Astrometry.Lengths
import SimsUtils.Astrometry.StarWise
import SimsUtils.Astrometry.FailFast
