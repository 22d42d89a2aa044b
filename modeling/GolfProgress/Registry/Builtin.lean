import GolfProgress.Registry.Basic

/-!
# The built-in catalog

The twenty benchmark tests of the academy, with what each category from A to K
asks of men and of women: a minimum, or a maximum where lower values are better.
-/

set_option autoImplicit false

namespace GolfProgress

/-- The benchmark tests of the academy. -/
def Catalog.builtin : Catalog where
  entries := [
    { test := 1, metricId := "CARRY", label := "Driver carry", unit := "m",
      direction := .higherBetter, domain := .teeShots, hard := true,
      targets := {
        male := [270, 260, 250, 240, 230, 220, 210, 200, 190, 180, 170]
        female := [240, 230, 220, 210, 200, 190, 180, 170, 160, 150, 140] } },
    { test := 2, metricId := "THREE_WOOD_CARRY", label := "3-wood carry", unit := "m",
      direction := .higherBetter, domain := .teeShots, hard := false,
      targets := {
        male := [250, 240, 230, 220, 210, 200, 190, 180, 170, 160, 150]
        female := [210, 200, 190, 180, 170, 160, 150, 140, 130, 120, 110] } },
    { test := 3, metricId := "FIVE_IRON_CARRY", label := "5-iron carry", unit := "m",
      direction := .higherBetter, domain := .approach200, hard := true,
      targets := {
        male := [190, 185, 180, 175, 170, 165, 160, 155, 150, 145, 140]
        female := [165, 160, 155, 150, 145, 140, 135, 130, 125, 120, 115] } },
    { test := 4, metricId := "WEDGE_CARRY", label := "Pitching wedge carry", unit := "m",
      direction := .higherBetter, domain := .approach150, hard := true,
      targets := {
        male := [130, 125, 120, 115, 110, 105, 100, 95, 90, 85, 80]
        female := [110, 105, 100, 95, 90, 85, 80, 75, 70, 65, 60] } },
    { test := 5, metricId := "CLUB_SPEED", label := "Driver club head speed", unit := "km/h",
      direction := .higherBetter, domain := .teeShots, hard := true,
      targets := {
        male := [193, 185, 177, 169, 161, 153, 145, 137, 129, 121, 113]
        female := [169, 161, 153, 145, 137, 129, 121, 113, 105, 97, 89] } },
    { test := 6, metricId := "BALL_SPEED", label := "Driver ball speed", unit := "km/h",
      direction := .higherBetter, domain := .teeShots, hard := false,
      targets := {
        male := [285, 270, 255, 240, 225, 210, 195, 180, 170, 160, 145]
        female := [250, 235, 220, 205, 190, 180, 170, 160, 150, 140, 130] } },
    { test := 7, metricId := "SMASH_FACTOR", label := "Driver smash factor", unit := "ratio",
      direction := .higherBetter, domain := .teeShots, hard := false,
      targets := {
        male := [1.48, 1.46, 1.44, 1.42, 1.40, 1.38, 1.36, 1.34, 1.32, 1.30, 1.28]
        female := [1.48, 1.46, 1.44, 1.42, 1.40, 1.38, 1.36, 1.34, 1.32, 1.30, 1.28] } },
    { test := 8, metricId := "PEI_25", label := "Approach 25m proximity index", unit := "PEI",
      direction := .lowerBetter, domain := .approach50, hard := true,
      targets := {
        male := [1, 1.2, 1.4, 1.6, 1.8, 2, 2.2, 2.4, 2.6, 2.8, 3]
        female := [1, 1.2, 1.4, 1.6, 1.8, 2, 2.2, 2.4, 2.6, 2.8, 3] } },
    { test := 9, metricId := "PEI_50", label := "Approach 50m proximity index", unit := "PEI",
      direction := .lowerBetter, domain := .approach50, hard := true,
      targets := {
        male := [1, 1.2, 1.4, 1.6, 1.8, 2, 2.2, 2.4, 2.6, 2.8, 3]
        female := [1, 1.2, 1.4, 1.6, 1.8, 2, 2.2, 2.4, 2.6, 2.8, 3] } },
    { test := 10, metricId := "PEI_75", label := "Approach 75m proximity index", unit := "PEI",
      direction := .lowerBetter, domain := .approach100, hard := false,
      targets := {
        male := [1, 1.2, 1.4, 1.6, 1.8, 2, 2.2, 2.4, 2.6, 2.8, 3]
        female := [1, 1.2, 1.4, 1.6, 1.8, 2, 2.2, 2.4, 2.6, 2.8, 3] } },
    { test := 11, metricId := "PEI_100", label := "Approach 100m proximity index", unit := "PEI",
      direction := .lowerBetter, domain := .approach100, hard := true,
      targets := {
        male := [1, 1.2, 1.4, 1.6, 1.8, 2, 2.2, 2.4, 2.6, 2.8, 3]
        female := [1, 1.2, 1.4, 1.6, 1.8, 2, 2.2, 2.4, 2.6, 2.8, 3] } },
    { test := 12, metricId := "BENCH_PRESS", label := "Bench press 1RM", unit := "kg",
      direction := .higherBetter, domain := .physical, hard := false,
      targets := {
        male := [140, 130, 120, 110, 100, 90, 80, 70, 60, 50, 40]
        female := [100, 90, 80, 70, 60, 50, 45, 40, 35, 30, 25] } },
    { test := 13, metricId := "TRAP_BAR_DEADLIFT", label := "Trap bar deadlift 1RM", unit := "kg",
      direction := .higherBetter, domain := .physical, hard := false,
      targets := {
        male := [200, 185, 170, 155, 140, 125, 110, 95, 80, 65, 50]
        female := [140, 130, 120, 110, 100, 90, 80, 70, 60, 50, 40] } },
    { test := 14, metricId := "RUN_3000M", label := "3000m treadmill run", unit := "seconds",
      direction := .lowerBetter, domain := .physical, hard := false,
      targets := {
        male := [660, 690, 720, 750, 780, 810, 840, 900, 960, 1020, 1080]
        female := [750, 780, 810, 840, 870, 900, 930, 990, 1050, 1110, 1200] } },
    { test := 15, metricId := "PUTT_3M", label := "Putting 3m make rate", unit := "%",
      direction := .higherBetter, domain := .putting, hard := true,
      targets := {
        male := [90, 80, 70, 60, 50, 40, 35, 30, 25, 20, 15]
        female := [90, 80, 70, 60, 50, 40, 35, 30, 25, 20, 15] } },
    { test := 16, metricId := "PUTT_6M", label := "Putting 6m make rate", unit := "%",
      direction := .higherBetter, domain := .putting, hard := false,
      targets := {
        male := [50, 40, 30, 25, 20, 15, 12, 10, 8, 5, 5]
        female := [50, 40, 30, 25, 20, 15, 12, 10, 8, 5, 5] } },
    { test := 17, metricId := "CHIP_PROXIMITY", label := "Chipping average proximity", unit := "cm",
      direction := .lowerBetter, domain := .aroundGreen, hard := true,
      targets := {
        male := [100, 120, 150, 180, 200, 220, 250, 280, 300, 320, 350]
        female := [100, 120, 150, 180, 200, 220, 250, 280, 300, 320, 350] } },
    { test := 18, metricId := "BUNKER_PROXIMITY", label := "Bunker average proximity", unit := "cm",
      direction := .lowerBetter, domain := .aroundGreen, hard := false,
      targets := {
        male := [150, 180, 200, 220, 250, 280, 300, 320, 350, 380, 400]
        female := [150, 180, 200, 220, 250, 280, 300, 320, 350, 380, 400] } },
    { test := 19, metricId := "NINE_HOLE_SCORE", label := "9-hole simulation score to par",
      unit := "score_to_par",
      direction := .lowerBetter, domain := .scoring, hard := true,
      targets := {
        male := [0, 2, 4, 6, 8, 10, 12, 14, 16, 18, 20]
        female := [0, 2, 4, 6, 8, 10, 12, 14, 16, 18, 20] } },
    { test := 20, metricId := "ON_COURSE_SKILLS", label := "On-course skills score to par",
      unit := "score_to_par",
      direction := .lowerBetter, domain := .scoring, hard := false,
      targets := {
        male := [0, 1, 2, 3, 4, 5, 6, 7, 8, 10, 12]
        female := [0, 1, 2, 3, 4, 5, 6, 7, 8, 10, 12] } }]

/-- The registry of the built-in catalog. -/
def Registry.builtin : Registry := Registry.ofCatalog Catalog.builtin

end GolfProgress
