/-!
# Figures

Emoji of people who do something, many of them joined of several emoji, and the later emoji.
`tonedNames` lists the names of people and parts of the body that a skin tone can be put to.
-/

namespace TransformPreset

/-- Figures by name. -/
def figureEmoji : List (String × String) :=
  [
    ("1st_place_medal", "🥇"), ("2nd_place_medal", "🥈"), ("3rd_place_medal", "🥉"), ("abacus", "🧮"),
    ("adhesive_bandage", "🩹"), ("adult", "🧑"), ("avocado", "🥑"), ("axe", "🪓"), ("bacon", "🥓"),
    ("badger", "🦡"), ("bagel", "🥯"), ("baguette_bread", "🥖"), ("bald", "🦲"),
    ("bald_man", "👨\u200d🦲"), ("bald_woman", "👩\u200d🦲"), ("ballet_shoes", "🩰"), ("banjo", "🪕"),
    ("basket", "🧺"), ("bat", "🦇"), ("bearded_person", "🧔"), ("beverage_box", "🧃"),
    ("billed_cap", "🧢"), ("blond-haired_man", "👱\u200d♂\ufe0f"),
    ("blond-haired_woman", "👱\u200d♀\ufe0f"), ("bone", "🦴"), ("bowl_with_spoon", "🥣"),
    ("boxing_glove", "🥊"), ("brain", "🧠"), ("breast-feeding", "🤱"), ("brick", "🧱"), ("briefs", "🩲"),
    ("broccoli", "🥦"), ("broom", "🧹"), ("brown_heart", "🤎"), ("butter", "🧈"), ("butterfly", "🦋"),
    ("call_me_hand", "🤙"), ("canned_food", "🥫"), ("carrot", "🥕"), ("chair", "🪑"),
    ("cheese_wedge", "🧀"), ("child", "🧒"), ("chopsticks", "🥢"), ("clinking_glasses", "🥂"),
    ("clown_face", "🤡"), ("coat", "🧥"), ("coconut", "🥥"), ("cold_face", "🥶"), ("compass", "🧭"),
    ("couple_with_heart_man_man", "👨\u200d❤\ufe0f\u200d👨"),
    ("couple_with_heart_woman_man", "👩\u200d❤\ufe0f\u200d👨"),
    ("couple_with_heart_woman_woman", "👩\u200d❤\ufe0f\u200d👩"), ("cowboy_hat_face", "🤠"),
    ("crab", "🦀"), ("cricket", "🦗"), ("croissant", "🥐"), ("crossed_fingers", "🤞"),
    ("cucumber", "🥒"), ("cup_with_straw", "🥤"), ("cupcake", "🧁"), ("curling_stone", "🥌"),
    ("curly-haired_man", "👨\u200d🦱"), ("curly-haired_woman", "👩\u200d🦱"), ("curly_hair", "🦱"),
    ("cut_of_meat", "🥩"), ("deaf_person", "🧏"), ("deer", "🦌"), ("diving_mask", "🤿"),
    ("diya_lamp", "🪔"), ("dna", "🧬"), ("drooling_face", "🤤"), ("drop_of_blood", "🩸"), ("drum", "🥁"),
    ("duck", "🦆"), ("dumpling", "🥟"), ("eagle", "🦅"), ("ear_with_hearing_aid", "🦻"), ("elf", "🧝"),
    ("exploding_head", "🤯"), ("eye_in_speech_bubble", "👁\ufe0f\u200d🗨\ufe0f"),
    ("face_vomiting", "🤮"), ("face_with_hand_over_mouth", "🤭"), ("face_with_head-bandage", "🤕"),
    ("face_with_head__bandage", "🤕"), ("face_with_monocle", "🧐"), ("face_with_raised_eyebrow", "🤨"),
    ("face_with_symbols_on_mouth", "🤬"), ("face_with_thermometer", "🤒"), ("fairy", "🧚"),
    ("falafel", "🧆"), ("family_man_boy", "👨\u200d👦"), ("family_man_boy_boy", "👨\u200d👦\u200d👦"),
    ("family_man_girl", "👨\u200d👧"), ("family_man_girl_boy", "👨\u200d👧\u200d👦"),
    ("family_man_girl_girl", "👨\u200d👧\u200d👧"), ("family_man_man_boy", "👨\u200d👨\u200d👦"),
    ("family_man_man_boy_boy", "👨\u200d👨\u200d👦\u200d👦"),
    ("family_man_man_girl", "👨\u200d👨\u200d👧"),
    ("family_man_man_girl_boy", "👨\u200d👨\u200d👧\u200d👦"),
    ("family_man_man_girl_girl", "👨\u200d👨\u200d👧\u200d👧"),
    ("family_man_woman_boy", "👨\u200d👩\u200d👦"),
    ("family_man_woman_boy_boy", "👨\u200d👩\u200d👦\u200d👦"),
    ("family_man_woman_girl", "👨\u200d👩\u200d👧"),
    ("family_man_woman_girl_boy", "👨\u200d👩\u200d👧\u200d👦"),
    ("family_man_woman_girl_girl", "👨\u200d👩\u200d👧\u200d👧"), ("family_woman_boy", "👩\u200d👦"),
    ("family_woman_boy_boy", "👩\u200d👦\u200d👦"), ("family_woman_girl", "👩\u200d👧"),
    ("family_woman_girl_boy", "👩\u200d👧\u200d👦"), ("family_woman_girl_girl", "👩\u200d👧\u200d👧"),
    ("family_woman_woman_boy", "👩\u200d👩\u200d👦"),
    ("family_woman_woman_boy_boy", "👩\u200d👩\u200d👦\u200d👦"),
    ("family_woman_woman_girl", "👩\u200d👩\u200d👧"),
    ("family_woman_woman_girl_boy", "👩\u200d👩\u200d👧\u200d👦"),
    ("family_woman_woman_girl_girl", "👩\u200d👩\u200d👧\u200d👧"), ("fire_extinguisher", "🧯"),
    ("firecracker", "🧨"), ("flamingo", "🦩"), ("flat_shoe", "🥿"), ("flying_disc", "🥏"),
    ("foot", "🦶"), ("fortune_cookie", "🥠"), ("fox_face", "🦊"), ("garlic", "🧄"), ("genie", "🧞"),
    ("giraffe", "🦒"), ("glass_of_milk", "🥛"), ("gloves", "🧤"), ("goal_net", "🥅"), ("goggles", "🥽"),
    ("gorilla", "🦍"), ("green_salad", "🥗"), ("guide_dog", "🦮"), ("handshake", "🤝"),
    ("hedgehog", "🦔"), ("hiking_boot", "🥾"), ("hippopotamus", "🦛"), ("hot_face", "🥵"),
    ("hugging_face", "🤗"), ("ice", "🧊"), ("jigsaw", "🧩"), ("kangaroo", "🦘"),
    ("kiss_man_man", "👨\u200d❤\ufe0f\u200d💋\u200d👨"),
    ("kiss_woman_man", "👩\u200d❤\ufe0f\u200d💋\u200d👨"),
    ("kiss_woman_woman", "👩\u200d❤\ufe0f\u200d💋\u200d👩"), ("kite", "🪁"), ("kiwi_fruit", "🥝"),
    ("lab_coat", "🥼"), ("lacrosse", "🥍"), ("leafy_green", "🥬"), ("left-facing_fist", "🤛"),
    ("leg", "🦵"), ("lion_face", "🦁"), ("lizard", "🦎"), ("llama", "🦙"), ("lobster", "🦞"),
    ("lotion_bottle", "🧴"), ("love-you_gesture", "🤟"), ("luggage", "🧳"), ("lying_face", "🤥"),
    ("mage", "🧙"), ("magnet", "🧲"), ("man_artist", "👨\u200d🎨"), ("man_astronaut", "👨\u200d🚀"),
    ("man_biking", "🚴\u200d♂\ufe0f"), ("man_bouncing_ball", "⛹\ufe0f\u200d♂\ufe0f"),
    ("man_bowing", "🙇\u200d♂\ufe0f"), ("man_cartwheeling", "🤸\u200d♂\ufe0f"),
    ("man_climbing", "🧗\u200d♂\ufe0f"), ("man_construction_worker", "👷\u200d♂\ufe0f"),
    ("man_cook", "👨\u200d🍳"), ("man_detective", "🕵\ufe0f\u200d♂\ufe0f"),
    ("man_elf", "🧝\u200d♂\ufe0f"), ("man_facepalming", "🤦\u200d♂\ufe0f"),
    ("man_factory_worker", "👨\u200d🏭"), ("man_fairy", "🧚\u200d♂\ufe0f"), ("man_farmer", "👨\u200d🌾"),
    ("man_firefighter", "👨\u200d🚒"), ("man_frowning", "🙍\u200d♂\ufe0f"),
    ("man_genie", "🧞\u200d♂\ufe0f"), ("man_gesturing_no", "🙅\u200d♂\ufe0f"),
    ("man_gesturing_ok", "🙆\u200d♂\ufe0f"), ("man_getting_haircut", "💇\u200d♂\ufe0f"),
    ("man_getting_massage", "💆\u200d♂\ufe0f"), ("man_golfing", "🏌\ufe0f\u200d♂\ufe0f"),
    ("man_guard", "💂\u200d♂\ufe0f"), ("man_health_worker", "👨\u200d⚕\ufe0f"),
    ("man_in_lotus_position", "🧘\u200d♂\ufe0f"), ("man_in_manual_wheelchair", "👨\u200d🦽"),
    ("man_in_motorized_wheelchair", "👨\u200d🦼"), ("man_in_steamy_room", "🧖\u200d♂\ufe0f"),
    ("man_in_tuxedo", "🤵"), ("man_judge", "👨\u200d⚖\ufe0f"), ("man_juggling", "🤹\u200d♂\ufe0f"),
    ("man_lifting_weights", "🏋\ufe0f\u200d♂\ufe0f"), ("man_mage", "🧙\u200d♂\ufe0f"),
    ("man_mechanic", "👨\u200d🔧"), ("man_mountain_biking", "🚵\u200d♂\ufe0f"),
    ("man_office_worker", "👨\u200d💼"), ("man_pilot", "👨\u200d✈\ufe0f"),
    ("man_playing_handball", "🤾\u200d♂\ufe0f"), ("man_playing_water_polo", "🤽\u200d♂\ufe0f"),
    ("man_police_officer", "👮\u200d♂\ufe0f"), ("man_pouting", "🙎\u200d♂\ufe0f"),
    ("man_raising_hand", "🙋\u200d♂\ufe0f"), ("man_rowing_boat", "🚣\u200d♂\ufe0f"),
    ("man_running", "🏃\u200d♂\ufe0f"), ("man_scientist", "👨\u200d🔬"),
    ("man_shrugging", "🤷\u200d♂\ufe0f"), ("man_singer", "👨\u200d🎤"), ("man_student", "👨\u200d🎓"),
    ("man_surfing", "🏄\u200d♂\ufe0f"), ("man_swimming", "🏊\u200d♂\ufe0f"),
    ("man_teacher", "👨\u200d🏫"), ("man_technologist", "👨\u200d💻"),
    ("man_tipping_hand", "💁\u200d♂\ufe0f"), ("man_vampire", "🧛\u200d♂\ufe0f"),
    ("man_walking", "🚶\u200d♂\ufe0f"), ("man_wearing_turban", "👳\u200d♂\ufe0f"),
    ("man_with_probing_cane", "👨\u200d🦯"), ("man_zombie", "🧟\u200d♂\ufe0f"), ("mango", "🥭"),
    ("manual_wheelchair", "🦽"), ("martial_arts_uniform", "🥋"), ("mate", "🧉"),
    ("mechanical_arm", "🦾"), ("mechanical_leg", "🦿"), ("men_with_bunny_ears", "👯\u200d♂\ufe0f"),
    ("men_wrestling", "🤼\u200d♂\ufe0f"), ("mermaid", "🧜\u200d♀\ufe0f"),
    ("merman", "🧜\u200d♂\ufe0f"), ("merperson", "🧜"), ("microbe", "🦠"), ("money-mouth_face", "🤑"),
    ("money__mouth_face", "🤑"), ("moon_cake", "🥮"), ("mosquito", "🦟"),
    ("motorized_wheelchair", "🦼"), ("mrs._claus", "🤶"), ("nauseated_face", "🤢"),
    ("nazar_amulet", "🧿"), ("nerd_face", "🤓"), ("older_adult", "🧓"), ("one-piece_swimsuit", "🩱"),
    ("onion", "🧅"), ("orange_heart", "🧡"), ("orangutan", "🦧"), ("otter", "🦦"), ("owl", "🦉"),
    ("oyster", "🦪"), ("palms_up_together", "🤲"), ("pancakes", "🥞"), ("parrot", "🦜"),
    ("partying_face", "🥳"), ("peacock", "🦚"), ("peanuts", "🥜"),
    ("people_holding_hands", "🧑\u200d🤝\u200d🧑"), ("people_wrestling", "🤼"),
    ("person_cartwheeling", "🤸"), ("person_climbing", "🧗"), ("person_facepalming", "🤦"),
    ("person_fencing", "🤺"), ("person_in_lotus_position", "🧘"), ("person_in_steamy_room", "🧖"),
    ("person_juggling", "🤹"), ("person_kneeling", "🧎"), ("person_playing_handball", "🤾"),
    ("person_playing_water_polo", "🤽"), ("person_shrugging", "🤷"), ("person_standing", "🧍"),
    ("petri_dish", "🧫"), ("pie", "🥧"), ("pinching_hand", "🤏"), ("pirate_flag", "🏴\u200d☠\ufe0f"),
    ("pleading_face", "🥺"), ("potato", "🥔"), ("pregnant_woman", "🤰"), ("pretzel", "🥨"),
    ("prince", "🤴"), ("probing_cane", "🦯"), ("raccoon", "🦝"), ("rainbow_flag", "🏳\ufe0f\u200d🌈"),
    ("raised_back_of_hand", "🤚"), ("razor", "🪒"), ("receipt", "🧾"), ("red-haired_man", "👨\u200d🦰"),
    ("red-haired_woman", "👩\u200d🦰"), ("red_envelope", "🧧"), ("red_hair", "🦰"), ("rhinoceros", "🦏"),
    ("right-facing_fist", "🤜"), ("ringed_planet", "🪐"), ("robot", "🤖"), ("robot_face", "🤖"),
    ("roll_of_paper", "🧻"), ("rolling_on_the_floor_laughing", "🤣"), ("safety_pin", "🧷"),
    ("safety_vest", "🦺"), ("salt", "🧂"), ("sandwich", "🥪"), ("sari", "🥻"), ("sauropod", "🦕"),
    ("scarf", "🧣"), ("scorpion", "🦂"), ("selfie", "🤳"), ("service_dog", "🐕\u200d🦺"),
    ("shallow_pan_of_food", "🥘"), ("shark", "🦈"), ("shorts", "🩳"), ("shrimp", "🦐"),
    ("shushing_face", "🤫"), ("sign_of_the_horns", "🤘"), ("skunk", "🦨"), ("sloth", "🦥"),
    ("smiling_face_with_3_hearts", "🥰"), ("sneezing_face", "🤧"), ("soap", "🧼"), ("socks", "🧦"),
    ("softball", "🥎"), ("sponge", "🧽"), ("spoon", "🥄"), ("squid", "🦑"), ("star-struck", "🤩"),
    ("stethoscope", "🩺"), ("stuffed_flatbread", "🥙"), ("superhero", "🦸"), ("supervillain", "🦹"),
    ("swan", "🦢"), ("t-rex", "🦖"), ("takeout_box", "🥡"), ("teddy_bear", "🧸"), ("test_tube", "🧪"),
    ("thinking_face", "🤔"), ("thread", "🧵"), ("toolbox", "🧰"), ("tooth", "🦷"),
    ("tumbler_glass", "🥃"), ("turkey", "🦃"), ("unicorn_face", "🦄"), ("vampire", "🧛"),
    ("waffle", "🧇"), ("white-haired_man", "👨\u200d🦳"), ("white-haired_woman", "👩\u200d🦳"),
    ("white_hair", "🦳"), ("white_heart", "🤍"), ("wilted_flower", "🥀"), ("woman_artist", "👩\u200d🎨"),
    ("woman_astronaut", "👩\u200d🚀"), ("woman_biking", "🚴\u200d♀\ufe0f"),
    ("woman_bouncing_ball", "⛹\ufe0f\u200d♀\ufe0f"), ("woman_bowing", "🙇\u200d♀\ufe0f"),
    ("woman_cartwheeling", "🤸\u200d♀\ufe0f"), ("woman_climbing", "🧗\u200d♀\ufe0f"),
    ("woman_construction_worker", "👷\u200d♀\ufe0f"), ("woman_cook", "👩\u200d🍳"),
    ("woman_detective", "🕵\ufe0f\u200d♀\ufe0f"), ("woman_elf", "🧝\u200d♀\ufe0f"),
    ("woman_facepalming", "🤦\u200d♀\ufe0f"), ("woman_factory_worker", "👩\u200d🏭"),
    ("woman_fairy", "🧚\u200d♀\ufe0f"), ("woman_farmer", "👩\u200d🌾"),
    ("woman_firefighter", "👩\u200d🚒"), ("woman_frowning", "🙍\u200d♀\ufe0f"),
    ("woman_genie", "🧞\u200d♀\ufe0f"), ("woman_gesturing_no", "🙅\u200d♀\ufe0f"),
    ("woman_gesturing_ok", "🙆\u200d♀\ufe0f"), ("woman_getting_haircut", "💇\u200d♀\ufe0f"),
    ("woman_getting_massage", "💆\u200d♀\ufe0f"), ("woman_golfing", "🏌\ufe0f\u200d♀\ufe0f"),
    ("woman_guard", "💂\u200d♀\ufe0f"), ("woman_health_worker", "👩\u200d⚕\ufe0f"),
    ("woman_in_lotus_position", "🧘\u200d♀\ufe0f"), ("woman_in_manual_wheelchair", "👩\u200d🦽"),
    ("woman_in_motorized_wheelchair", "👩\u200d🦼"), ("woman_in_steamy_room", "🧖\u200d♀\ufe0f"),
    ("woman_judge", "👩\u200d⚖\ufe0f"), ("woman_juggling", "🤹\u200d♀\ufe0f"),
    ("woman_lifting_weights", "🏋\ufe0f\u200d♀\ufe0f"), ("woman_mage", "🧙\u200d♀\ufe0f"),
    ("woman_mechanic", "👩\u200d🔧"), ("woman_mountain_biking", "🚵\u200d♀\ufe0f"),
    ("woman_office_worker", "👩\u200d💼"), ("woman_pilot", "👩\u200d✈\ufe0f"),
    ("woman_playing_handball", "🤾\u200d♀\ufe0f"), ("woman_playing_water_polo", "🤽\u200d♀\ufe0f"),
    ("woman_police_officer", "👮\u200d♀\ufe0f"), ("woman_pouting", "🙎\u200d♀\ufe0f"),
    ("woman_raising_hand", "🙋\u200d♀\ufe0f"), ("woman_rowing_boat", "🚣\u200d♀\ufe0f"),
    ("woman_running", "🏃\u200d♀\ufe0f"), ("woman_scientist", "👩\u200d🔬"),
    ("woman_shrugging", "🤷\u200d♀\ufe0f"), ("woman_singer", "👩\u200d🎤"),
    ("woman_student", "👩\u200d🎓"), ("woman_surfing", "🏄\u200d♀\ufe0f"),
    ("woman_swimming", "🏊\u200d♀\ufe0f"), ("woman_teacher", "👩\u200d🏫"),
    ("woman_technologist", "👩\u200d💻"), ("woman_tipping_hand", "💁\u200d♀\ufe0f"),
    ("woman_vampire", "🧛\u200d♀\ufe0f"), ("woman_walking", "🚶\u200d♀\ufe0f"),
    ("woman_wearing_turban", "👳\u200d♀\ufe0f"), ("woman_with_headscarf", "🧕"),
    ("woman_with_probing_cane", "👩\u200d🦯"), ("woman_zombie", "🧟\u200d♀\ufe0f"),
    ("women_with_bunny_ears", "👯\u200d♀\ufe0f"), ("women_wrestling", "🤼\u200d♀\ufe0f"),
    ("woozy_face", "🥴"), ("yarn", "🧶"), ("yawning_face", "🥱"), ("yo-yo", "🪀"), ("zany_face", "🤪"),
    ("zebra", "🦓"), ("zipper-mouth_face", "🤐"), ("zipper__mouth_face", "🤐"), ("zombie", "🧟")
  ]

/-- The names that a skin tone can be put to. -/
def tonedNames : List String :=
  [
    "adult", "baby", "baby_angel", "backhand_index_pointing_down", "backhand_index_pointing_left",
    "backhand_index_pointing_right", "backhand_index_pointing_up", "bearded_person",
    "blond-haired_man", "blond-haired_person", "blond-haired_woman", "boy", "breast-feeding",
    "bride_with_veil", "call_me_hand", "child", "clapping_hands", "construction_worker",
    "crossed_fingers", "detective", "ear", "elf", "fairy", "flexed_biceps", "folded_hands", "girl",
    "guard", "hand_with_fingers_splayed", "horse_racing", "index_pointing_up", "left-facing_fist",
    "love-you_gesture", "mage", "man", "man_artist", "man_astronaut", "man_biking",
    "man_bouncing_ball", "man_bowing", "man_cartwheeling", "man_climbing",
    "man_construction_worker", "man_cook", "man_dancing", "man_detective", "man_elf",
    "man_facepalming", "man_factory_worker", "man_fairy", "man_farmer", "man_firefighter",
    "man_frowning", "man_gesturing_no", "man_gesturing_ok", "man_getting_haircut",
    "man_getting_massage", "man_golfing", "man_guard", "man_health_worker", "man_in_lotus_position",
    "man_in_steamy_room", "man_in_suit_levitating", "man_in_tuxedo", "man_judge", "man_juggling",
    "man_lifting_weights", "man_mage", "man_mechanic", "man_mountain_biking", "man_office_worker",
    "man_pilot", "man_playing_handball", "man_playing_water_polo", "man_police_officer",
    "man_pouting", "man_raising_hand", "man_rowing_boat", "man_running", "man_scientist",
    "man_shrugging", "man_singer", "man_student", "man_surfing", "man_swimming", "man_teacher",
    "man_technologist", "man_tipping_hand", "man_vampire", "man_walking", "man_wearing_turban",
    "man_with_chinese_cap", "mermaid", "merman", "merperson", "middle_finger", "mrs._claus",
    "nail_polish", "nose", "ok_hand", "old_man", "old_woman", "older_adult", "oncoming_fist",
    "open_hands", "palms_up_together", "person_biking", "person_bouncing_ball", "person_bowing",
    "person_cartwheeling", "person_climbing", "person_facepalming", "person_frowning",
    "person_gesturing_no", "person_gesturing_ok", "person_getting_haircut",
    "person_getting_massage", "person_golfing", "person_in_bed", "person_in_lotus_position",
    "person_in_steamy_room", "person_juggling", "person_lifting_weights", "person_mountain_biking",
    "person_playing_handball", "person_playing_water_polo", "person_pouting", "person_raising_hand",
    "person_rowing_boat", "person_running", "person_shrugging", "person_surfing", "person_swimming",
    "person_taking_bath", "person_tipping_hand", "person_walking", "person_wearing_turban",
    "police_officer", "pregnant_woman", "prince", "princess", "raised_back_of_hand", "raised_fist",
    "raised_hand", "raising_hands", "right-facing_fist", "santa_claus", "selfie",
    "sign_of_the_horns", "snowboarder", "thumbs_down", "thumbs_up", "vampire", "victory_hand",
    "vulcan_salute", "waving_hand", "woman", "woman_artist", "woman_astronaut", "woman_biking",
    "woman_bouncing_ball", "woman_bowing", "woman_cartwheeling", "woman_climbing",
    "woman_construction_worker", "woman_cook", "woman_dancing", "woman_detective", "woman_elf",
    "woman_facepalming", "woman_factory_worker", "woman_fairy", "woman_farmer", "woman_firefighter",
    "woman_frowning", "woman_gesturing_no", "woman_gesturing_ok", "woman_getting_haircut",
    "woman_getting_massage", "woman_golfing", "woman_guard", "woman_health_worker",
    "woman_in_lotus_position", "woman_in_steamy_room", "woman_judge", "woman_juggling",
    "woman_lifting_weights", "woman_mage", "woman_mechanic", "woman_mountain_biking",
    "woman_office_worker", "woman_pilot", "woman_playing_handball", "woman_playing_water_polo",
    "woman_police_officer", "woman_pouting", "woman_raising_hand", "woman_rowing_boat",
    "woman_running", "woman_scientist", "woman_shrugging", "woman_singer", "woman_student",
    "woman_surfing", "woman_swimming", "woman_teacher", "woman_technologist", "woman_tipping_hand",
    "woman_vampire", "woman_walking", "woman_wearing_turban", "woman_with_headscarf",
    "writing_hand"
  ]

end TransformPreset
